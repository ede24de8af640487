/-!
# Starter templates

The programs that the create screen offers to start from, in the order of its picker.
-/

namespace FunctionConsole

/-- A program to start a new function from. -/
structure Template where
  id : String
  name : String
  description : String
  code : String
  deriving DecidableEq, Repr, Inhabited

namespace Template

/-- Lines joined with line breaks. -/
def ofLines (lines : List String) : String := String.intercalate "\n" lines

/-- Answers a request with a greeting. -/
def httpCode : String := ofLines
  ["-- HTTP Handler",
   "function handler(ctx, event)",
   "    local method = event.method",
   "    local path = event.path",
   "",
   "    log.info(\"Received \" .. method .. \" request to \" .. path)",
   "",
   "    return \x7b",
   "        statusCode = 200,",
   "        headers = \x7b [\"Content-Type\"] = \"application/json\" \x7d,",
   "        body = json.encode(\x7b",
   "            message = \"Hello from Lua!\",",
   "            method = method,",
   "            path = path",
   "        \x7d)",
   "    \x7d",
   "end"]

/-- Runs on a schedule. -/
def scheduledCode : String := ofLines
  ["-- Scheduled Task",
   "function handler(ctx, event)",
   "    -- This function runs on schedule",
   "    local timestamp = time.format(time.now(), \"2006-01-02 15:04:05\")",
   "",
   "    log.info(\"Task executed at \" .. timestamp)",
   "",
   "    return \x7b",
   "        statusCode = 200,",
   "        headers = \x7b [\"Content-Type\"] = \"application/json\" \x7d,",
   "        body = json.encode(\x7b",
   "            status = \"completed\",",
   "            timestamp = timestamp",
   "        \x7d)",
   "    \x7d",
   "end"]

/-- Takes what another service posts. -/
def webhookCode : String := ofLines
  ["-- Webhook Handler",
   "function handler(ctx, event)",
   "    local body = event.body",
   "    local headers = event.headers",
   "",
   "    -- Process webhook payload",
   "    log.info(\"Received webhook\")",
   "",
   "    return \x7b",
   "        statusCode = 200,",
   "        headers = \x7b [\"Content-Type\"] = \"application/json\" \x7d,",
   "        body = json.encode(\x7b",
   "            received = true,",
   "            body_length = #body",
   "        \x7d)",
   "    \x7d",
   "end"]

/-- Tells the methods of a resource apart. -/
def restApiCode : String := ofLines
  ["-- REST API Endpoint",
   "function handler(ctx, event)",
   "    local method = event.method",
   "",
   "    if method == \"GET\" then",
   "        return \x7b",
   "            statusCode = 200,",
   "            headers = \x7b [\"Content-Type\"] = \"application/json\" \x7d,",
   "            body = json.encode(\x7b",
   "                items = \x7b\x7d,",
   "                total = 0",
   "            \x7d)",
   "        \x7d",
   "    elseif method == \"POST\" then",
   "        local data = json.decode(event.body)",
   "        return \x7b",
   "            statusCode = 201,",
   "            headers = \x7b [\"Content-Type\"] = \"application/json\" \x7d,",
   "            body = json.encode(\x7b",
   "                id = crypto.uuid(),",
   "                created = true",
   "            \x7d)",
   "        \x7d",
   "    else",
   "        return \x7b",
   "            statusCode = 405,",
   "            headers = \x7b [\"Content-Type\"] = \"application/json\" \x7d,",
   "            body = json.encode(\x7b",
   "                error = \"Method not allowed\"",
   "            \x7d)",
   "        \x7d",
   "    end",
   "end"]

/-- Next to nothing. -/
def blankCode : String := ofLines
  ["-- Your function code here",
   "function handler(ctx, event)",
   "    return \x7b",
   "        statusCode = 200,",
   "        headers = \x7b [\"Content-Type\"] = \"text/plain\" \x7d,",
   "        body = \"Hello, World!\"",
   "    \x7d",
   "end"]

/-- All templates; the first is the default. -/
def all : List Template :=
  [⟨"http", "HTTP Template", "Handle HTTP requests with custom logic", httpCode⟩,
   ⟨"scheduled", "Scheduled Task", "Run code on a schedule", scheduledCode⟩,
   ⟨"webhook", "Webhook Handler", "Process incoming webhooks", webhookCode⟩,
   ⟨"api", "REST API", "Build RESTful API endpoints", restApiCode⟩,
   ⟨"blank", "Blank", "Start with empty template", blankCode⟩]

/-- The template that is chosen at first. -/
def initial : Template := all.headD default

/-- The template with an id. -/
def find? (id : String) : Option Template := all.find? fun t => t.id = id

/-- The template at a position; past the last one, the last. -/
def get (i : Nat) : Template := (all[min i (all.length - 1)]?).getD initial

end Template

end FunctionConsole
