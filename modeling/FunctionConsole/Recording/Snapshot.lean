import FunctionConsole.Recording.Value
import FunctionConsole.Session

/-!
# Snapshots

The state of the console as a document. A recorded session shows a whole snapshot at first and after
that only the fields that have changed.
-/

namespace FunctionConsole

open Json (listOf texts)

-- ==================================================== parts

/-- A page of a list with its numbers. -/
def PageModel.record (m : PageModel) : Json :=
  .object
    [("total", .nat m.total.toNat), ("limit", .nat m.limit.toNat), ("offset", .nat m.offset.toNat),
     ("current_page", .nat m.currentPage.toNat), ("total_pages", .nat m.totalPages.toNat),
     ("start", .nat m.start.toNat), ("end", .nat m.stop.toNat), ("has_prev", .bool m.hasPrev),
     ("has_next", .bool m.hasNext), ("summary", .optional .string m.summary)]

/-- A single-line input. -/
def TextInput.record (t : TextInput) : Json :=
  .object [("value", .string t.value), ("cursor", .nat t.cursor)]

/-- A multi-line buffer. -/
def TextArea.record (a : TextArea) : Json :=
  .object [("text", .string a.text), ("row", .nat a.row), ("col", .nat a.col)]

/-- The name of a row's state. -/
def RowState.name : RowState → String
  | .unchanged => "Original"
  | .added => "Added"
  | .modified => "Modified"
  | .removed => "Removed"

/-- A row of the environment editor. -/
def EnvRow.record (r : EnvRow) : Json :=
  .object
    [("key", .string r.key.value), ("key_cursor", .nat r.key.cursor),
     ("value", .string r.value.value), ("value_cursor", .nat r.value.cursor),
     ("shown", .string r.value.display), ("state", .string r.state.name)]

/-- The environment editor. -/
def EnvEditor.record (e : EnvEditor) : Json :=
  .object
    [("rows", listOf EnvRow.record e.rows), ("selected", .nat e.selected),
     ("column", .string (match e.column with | .key => "Key" | .value => "Value")),
     ("has_changes", .bool e.hasChanges), ("collect", EnvVars.format.encode e.collect)]

/-- An entry of the palette. -/
def PaletteItem.record (i : PaletteItem) : Json :=
  .object
    [("label", .string i.label), ("description", .string i.description),
     ("route", i.route.record),
     ("kind", .string (match i.kind with | .navigation => "Navigation" | .function => "Function")),
     ("disabled", .bool i.disabled)]

/-- The palette. -/
def Palette.record (p : Palette) : Json :=
  .object
    [("open", .bool p.isOpen), ("loading", .bool p.loading), ("query", p.query.record),
     ("generation", .nat p.generation), ("candidates", .nat p.items.length),
     ("results", texts (p.results.map (·.label))), ("result_count", .nat p.filtered.length),
     ("selected", .nat p.selected),
     ("selected_item", .optional PaletteItem.record p.selectedItem)]

/-- A change that waits for its confirmation. -/
def Mutation.record : Mutation → Json
  | .deleteFunction id => .object [("msg", .string "delete_function"), ("id", .string id)]
  | .setDisabled id disabled =>
    .object [("msg", .string "set_function_disabled"), ("id", .string id),
      ("disabled", .bool disabled)]
  | .activateVersion id version =>
    .object [("msg", .string "activate_version"), ("id", .string id),
      ("version", .nat version.toNat)]

/-- A question. -/
def Dialog.record (d : Dialog) : Json :=
  .object
    [("title", .string d.title), ("message", .string d.message), ("danger", .bool d.danger),
     ("on_confirm", d.onConfirm.record)]

/-- The name of a kind of toast. -/
def ToastKind.name : ToastKind → String
  | .success => "Success"
  | .error => "Error"
  | .info => "Info"

/-- The kind of toast with a name. -/
def ToastKind.ofName : String → ToastKind
  | "Success" => .success
  | "Error" => .error
  | _ => .info

/-- Data that was asked for. -/
def Loadable.record {α : Type} (f : α → Json) : Loadable α → Json
  | .loading => .string "Loading"
  | .notFound => .string "NotFound"
  | .loaded a => f a

/-- A function in short. -/
def Function.brief (f : Function) : Json :=
  .object
    [("id", .string f.id), ("name", .string f.name), ("disabled", .bool f.disabled),
     ("version", .nat f.activeVersion.version.toNat)]

/-- A page of rows, each row in short. -/
def Listing.brief {α : Type} (f : α → Json) (l : Listing α) : Json :=
  .object
    [("rows", listOf f l.rows), ("total", .nat l.pagination.total.toNat),
     ("limit", .nat l.pagination.limit.toNat), ("offset", .nat l.pagination.offset.toNat)]

/-- The name of a language. -/
def CodeLanguage.name : CodeLanguage → String
  | .curl => "Curl"
  | .javaScript => "JavaScript"
  | .python => "Python"
  | .go => "Go"

/-- The language with a name. -/
def CodeLanguage.ofName (s : String) : CodeLanguage := (all.find? fun l => l.name = s).getD .curl

/-- The name of a general field. -/
def GeneralField.label : GeneralField → String
  | .name => "Name"
  | .description => "Description"

/-- The name of a part of the create screen. -/
def CreateField.label : CreateField → String
  | .name => "Name"
  | .description => "Description"
  | .template => "Template"
  | .submit => "Submit"

/-- The name of a part of the test screen. -/
def TestField.label : TestField → String
  | .method => "Method"
  | .query => "Query"
  | .headers => "Headers"
  | .body => "Body"
  | .send => "Send"

-- ==================================================== screens

namespace Screen

/-- A function that a screen asked for, in short. -/
def functionRecord (f : Loadable Function) : String × Json := ("function", f.record Function.brief)

/-- What a screen holds. -/
def fields : Screen → List (String × Json)
  | .login s =>
    [("screen", .string "Login"), ("api_key", s.apiKey.record), ("shown", .string s.apiKey.display),
     ("submitting", .bool s.submitting), ("error", .optional .string s.error),
     ("redirect", s.redirect.record), ("can_submit", .bool s.canSubmit)]
  | .functions s =>
    [("screen", .string "FunctionsList"), ("selected", .nat s.selected), ("page", s.page.record),
     ("functions", s.functions.record (Listing.brief fun f => .string f.id)),
     ("selected_function", .optional (fun f => .string f.id) s.selectedFunction)]
  | .create s =>
    [("screen", .string "FunctionCreate"), ("name", s.name.record),
     ("description", s.description.record), ("template", .nat s.template),
     ("template_id", .string s.selectedTemplate.id), ("focus", .string s.focus.label),
     ("errors", .object (s.errors.map fun e => (e.1, .string e.2))),
     ("submitting", .bool s.submitting), ("name_error", .optional .string (s.fieldError "name"))]
  | .code s =>
    [("screen", .string "FunctionCode"), ("id", .string s.id), functionRecord s.function,
     ("editor", s.editor.record), ("editing", .bool s.editing), ("saving", .bool s.saving),
     ("api_tab", .nat s.apiTab), ("api_section", .string s.apiSection.id),
     ("edited_code", .optional .string s.editedCode)]
  | .versions s =>
    [("screen", .string "FunctionVersions"), ("id", .string s.id), functionRecord s.function,
     ("versions", s.versions.record (Listing.brief fun v => .nat v.version.toNat)),
     ("selected", .nat s.selected), ("checked", listOf (fun v => .nat v.toNat) s.checked),
     ("page", s.page.record), ("compare", .optional Route.record s.compareRoute),
     ("selected_version", .optional (fun v => .nat v.version.toNat) s.selectedVersion)]
  | .executions s =>
    [("screen", .string "FunctionExecutions"), ("id", .string s.id), functionRecord s.function,
     ("executions", s.executions.record (Listing.brief fun e => .string e.id)),
     ("selected", .nat s.selected), ("page", s.page.record)]
  | .settings s =>
    [("screen", .string "FunctionSettings"), ("id", .string s.id), functionRecord s.function,
     ("section", .string s.sect.label), ("field", .string s.field.label), ("name", s.name.record),
     ("description", s.description.record),
     ("general_error", .optional (fun e => texts [e.1.label, e.2]) s.generalError),
     ("env", s.env.record), ("env_error", .optional .string s.envError),
     ("enabled", .bool s.enabled), ("saving", .bool s.saving),
     ("invocation_url", .string s.invocationUrl), ("edited_name", .optional .string s.editedName),
     ("edited_description", .optional .string s.editedDescription),
     ("status_change", .optional .bool s.statusChange)]
  | .test s =>
    [("screen", .string "FunctionTest"), ("id", .string s.id), functionRecord s.function,
     ("focus", .string s.focus.label), ("method", .string s.method.name),
     ("query", s.query.record), ("headers", s.headers.record), ("body", s.body.record),
     ("headers_error", .optional (fun e => .string e.message) s.headersError),
     ("sending", .bool s.sending), ("response", .optional InvokeResponse.record s.response),
     ("logs", .optional (Loadable.record (Listing.brief fun l => .string l.message)) s.logs),
     ("language", .string s.language.name), ("url", .string s.url),
     ("code_example", .string s.codeExample)]
  | .diff s =>
    [("screen", .string "VersionDiff"), ("id", .string s.id), ("old", .nat s.old.toNat),
     ("new", .nat s.new.toNat), functionRecord s.function,
     ("diff", s.diff.record fun d => .object
       [("lines", .nat d.diff.length), ("stats", listOf .nat [d.additions, d.deletions])]),
     ("scroll", .nat s.scroll), ("subtitle", .string s.subtitle)]
  | .execution s =>
    [("screen", .string "ExecutionDetail"), ("id", .string s.id),
     ("execution", s.execution.record fun e => .object
       [("id", .string e.id), ("function_id", .string e.functionId),
        ("status", .string e.status.label)]),
     ("function", .optional Function.brief s.function),
     ("logs", s.logs.record (Listing.brief fun l => .string l.message)), ("page", s.page.record),
     ("scroll", .nat s.scroll), ("show_log_pagination", .bool s.showLogPagination),
     ("error_report", .optional (fun r => .object
       [("description", .optional .string r.description), ("code", .optional .string r.code),
        ("tip", .optional .string r.tip)]) s.errorReport)]
  | .gallery s =>
    [("screen", .string "Preview"), ("component", .optional (fun p => .string p.slug) s.component),
     ("current", .string s.current.label)]

end Screen

-- ==================================================== the console

/-- What the console holds. -/
def Console.fields (c : Console) : List (String × Json) :=
  [("route", c.route.record), ("generation", .nat c.generation), ("should_quit", .bool c.shouldQuit),
   ("toasts", listOf (fun t => .array
     [.nat t.id, .string t.kind.name, .string t.message]) c.toasts.items),
   ("palette", c.palette.record), ("confirm", .optional Dialog.record c.confirm),
   ("back", .optional Route.record c.backRoute),
   ("tab_function_id", .optional .string c.tabFunctionId),
   ("current_function", .optional (fun f => .string f.id) c.currentFunction),
   ("view", .object c.screen.fields)]

/-- The fields that differ from what they were before. -/
def changedFields (before after : List (String × Json)) : List (String × Json) :=
  after.filter fun f => (Json.lookup? f.1 before).map Json.compact != some f.2.compact

/-- A call. -/
def Call.record (c : Call) : Json :=
  .object
    [("scope", .string (match c.ticket.scope with | .view => "view" | .palette => "palette")),
     ("generation", .nat c.ticket.generation), ("request", c.request.record)]

-- ==================================================== steps

/-- The ticket of a recorded response: the screen's, the palette's, or one that is spelled out. -/
def Console.ticketOfRecord (c : Console) : Json → Ticket
  | .null => c.ticket
  | .string _ => ⟨.palette, c.palette.generation⟩
  | t => ⟨if t.text "scope" = "palette" then .palette else .view, t.natural "generation"⟩

/-- The message with a recorded name. -/
def Message.ofRecord? (j : Json) : Option Message :=
  let id := j.text "id"
  match j.text "msg" with
  | "tick" => some .tick
  | "quit" => some .quit
  | "startup" => (Route.ofRecord? (j.get "route")).map fun r => .startup r (j.text? "api_key")
  | "navigate" => (Route.ofRecord? (j.get "route")).map .navigate
  | "back" => some .back
  | "reload" => some .reload
  | "logout" => some .logout
  | "toggle_palette" => some .togglePalette
  | "confirm_accepted" => some .confirmAccepted
  | "confirm_declined" => some .confirmDeclined
  | "delete_function" => some (.mutate (.deleteFunction id))
  | "set_function_disabled" => some (.mutate (.setDisabled id (j.flag "disabled")))
  | "activate_version" => some (.mutate (.activateVersion id (j.shortWord "version")))
  | _ => none

/-- The messages of a recorded step: keys by name, typed characters, a response, or a message. -/
def Console.messagesOfRecord (c : Console) (j : Json) : List Message :=
  match j.field? "keys", j.text? "type", j.text? "response" with
  | some keys, _, _ => (keys.asList.filterMap fun k => Key.ofRecord? k.asText).map .key
  | _, some s, _ => s.toList.map fun ch => .key (.char ch)
  | _, _, some _ => [.api (c.ticketOfRecord (j.get "ticket")) (.ofRecord j)]
  | _, _, _ => (Message.ofRecord? j).toList

end FunctionConsole
