import FunctionConsole.Proofs.Web.Extension
import FunctionConsole.Proofs.Web.Paths

/-!
# The path of a request

The path of a request is that of the server, with the words of the request behind it and, for most,
an id among them. A server takes the path apart at its slashes and decodes the pieces, so an id
should be one of them, whatever its characters are; else a request for one thing would reach
another. `request_paths_carry_ids` says when it is: all ids are carried but `.` and `..`, which are
left out, and those with a tab or a line break, which lose it. For two requests with ids that are
carried, one path means one thing that is asked for.
-/

namespace FunctionConsole

open Web (percentDecode utf8)
open Web.Url (pieces trimmed written push openPath Plain Opens length_pieces_foldl_push)

-- ==================================================== words and ids

/-- The id in the path of a request. -/
def Request.pathId? : Request → Option String
  | .login _ | .logout | .listFunctions _ _ | .createFunction _ => none
  | .getFunction id | .updateFunction id _ | .deleteFunction id | .updateEnv id _
  | .listVersions id _ _ | .activateVersion id _ | .diffVersions id _ _ | .listExecutions id _ _
  | .getExecution id | .executionLogs id _ _ | .invoke id _ => some id

/-- The words in the path of a request, with a gap where the id stands. -/
def Request.pathWords : Request → List (Option String)
  | .login _ => [some "api", some "login"]
  | .logout => [some "api", some "logout"]
  | .listFunctions _ _ | .createFunction _ => [some "api", some "functions"]
  | .getFunction _ | .updateFunction _ _ | .deleteFunction _ => [some "api", some "functions", none]
  | .updateEnv _ _ => [some "api", some "functions", none, some "env"]
  | .listVersions _ _ _ => [some "api", some "functions", none, some "versions"]
  | .activateVersion _ v =>
    [some "api", some "functions", none, some "versions", some (toString v.toNat), some "activate"]
  | .diffVersions _ old new =>
    [some "api", some "functions", none, some "diff", some (toString old.toNat),
      some (toString new.toNat)]
  | .listExecutions _ _ _ => [some "api", some "functions", none, some "executions"]
  | .getExecution _ => [some "api", some "executions", none]
  | .executionLogs _ _ _ => [some "api", some "executions", none, some "logs"]
  | .invoke _ _ => [some "fn", none]

/-- The segments of a request as words and an id. -/
def readSegments : List String → List (Option String) × Option String
  | ["fn", id] => ([some "fn", none], some id)
  | "api" :: "functions" :: id :: rest =>
    (some "api" :: some "functions" :: none :: rest.map some, some id)
  | "api" :: "executions" :: id :: rest =>
    (some "api" :: some "executions" :: none :: rest.map some, some id)
  | segments => (segments.map some, none)

theorem readSegments_segments (r : Request) :
    readSegments (Client.segments r) = (r.pathWords, r.pathId?) := by
  cases r <;> rfl

/-- The segments of a request say what is asked for, and of what. -/
theorem Request.eq_of_segments {r r' : Request} (h : Client.segments r = Client.segments r') :
    r.pathWords = r'.pathWords ∧ r.pathId? = r'.pathId? := by
  have hread := congrArg readSegments h
  rw [readSegments_segments, readSegments_segments] at hread
  exact Prod.ext_iff.mp hread

/-- The words are the segments of a request, with the id in the gap. -/
theorem Request.segments_eq (r : Request) :
    Client.segments r = r.pathWords.map fun w => w.getD (r.pathId?.getD "") := by
  cases r <;> rfl

theorem plain_iff {segment : String} : Plain segment ↔
    segment ≠ "." ∧ segment ≠ ".." ∧ segment.toList.any Web.Url.isIgnored = false := by
  simp only [List.any_eq_false, Bool.not_eq_true]
  exact ⟨fun h => ⟨h.here, h.above, h.kept⟩, fun h => ⟨h.1, h.2.1, h.2.2⟩⟩

instance (segment : String) : Decidable (Plain segment) := decidable_of_iff' _ plain_iff

theorem plain_number (n : Nat) : Plain (toString n) := by
  have hdigits : ∀ c ∈ (toString n).toList, c.isDigit = true := by
    intro c hc
    rw [Nat.toString_eq_ofList_toDigits, String.toList_ofList] at hc
    exact Nat.isDigit_of_mem_toDigits (by omega) (by omega) hc
  refine ⟨?_, ?_, ?_⟩
  · intro heq
    rw [heq] at hdigits
    exact absurd (hdigits '.' (by decide)) (by decide)
  · intro heq
    rw [heq] at hdigits
    exact absurd (hdigits '.' (by decide)) (by decide)
  · intro c hc
    have hdigit := hdigits c hc
    rw [Bool.eq_false_iff]
    intro hignored
    simp only [Web.Url.isIgnored, Bool.or_eq_true, beq_iff_eq] at hignored
    rcases hignored with (rfl | rfl) | rfl <;> exact absurd hdigit (by decide)

/-- The words with which a path begins, in front of an id or without any. -/
def openings : List (List String) :=
  [["fn"], ["api", "functions"], ["api", "executions"], ["api", "login"], ["api", "logout"]]

theorem plain_opening : ∀ front ∈ openings,
    front ≠ [] ∧ front.head? ≠ some "" ∧ ∀ s ∈ front, Plain s := by
  decide

/-- The segments of a request: words that begin a path, and it may be an id between words. Of the
words each stays what it is. -/
inductive Request.Shape : Option String → List String → Prop
  | words (front : List String) : front ∈ openings → Shape none front
  | gap (front back : List String) (id : String) : front ∈ openings → (∀ s ∈ back, Plain s) →
    Shape (some id) (front ++ id :: back)

theorem Request.shape (r : Request) : Shape r.pathId? (Client.segments r) := by
  cases r with
  | login => exact .words ["api", "login"] (by decide)
  | logout => exact .words ["api", "logout"] (by decide)
  | listFunctions | createFunction => exact .words ["api", "functions"] (by decide)
  | invoke id => exact .gap ["fn"] _ id (by decide) (by simp)
  | getExecution id | executionLogs id =>
      exact .gap ["api", "executions"] _ id (by decide) (by decide)
  | getFunction id | updateFunction id | deleteFunction id | updateEnv id | listVersions id
  | listExecutions id => exact .gap ["api", "functions"] _ id (by decide) (by decide)
  | activateVersion id v =>
      refine .gap ["api", "functions"] _ id (by decide) ?_
      rw [List.forall_mem_cons, List.forall_mem_cons]
      exact ⟨by decide, plain_number _, by decide⟩
  | diffVersions id old new =>
      refine .gap ["api", "functions"] _ id (by decide) ?_
      rw [List.forall_mem_cons, List.forall_mem_cons]
      exact ⟨by decide, plain_number _, by simpa using plain_number _⟩

namespace Client

theorem segments_plain {r : Request} (hid : ∀ id ∈ r.pathId?, Plain id) :
    (segments r).head? ≠ some "" ∧ ∀ s ∈ segments r, Plain s := by
  have hshape := r.shape
  generalize segments r = segments at hshape ⊢
  generalize r.pathId? = id? at hshape hid
  cases hshape with
  | words front hfront => exact (plain_opening _ hfront).2
  | gap front back id hfront hback =>
      obtain ⟨hne, hhead, hplain⟩ := plain_opening _ hfront
      obtain ⟨w, more, rfl⟩ := List.exists_cons_of_ne_nil hne
      refine ⟨hhead, List.forall_mem_append.mpr ⟨hplain, ?_⟩⟩
      exact List.forall_mem_cons.mpr ⟨hid id rfl, hback⟩

-- ==================================================== paths

theorem path_url (c : Client) (r : Request) :
    (c.url r).path = (segments r).foldl push (openPath c.baseUrl.path) := by
  have hpath : (c.baseUrl.extend (segments r)).path =
      (segments r).foldl push (openPath c.baseUrl.path) := rfl
  rw [← hpath]
  unfold url
  dsimp only
  split
  · split <;> rfl
  · rfl
  · rfl

/-- The path of a request, taken apart and decoded, is that of the server and the words of the
request, with the id as it is. -/
def Carries (c : Client) (r : Request) : Prop :=
  (pieces (c.url r).path).map percentDecode =
    (trimmed c.baseUrl.path).map percentDecode ++ (segments r).map utf8

section

variable {c : Client} {r : Request} {ps : List (List Char)}
  (hopens : Opens (openPath c.baseUrl.path) ps)
include hopens

/-- Behind what is opened come the words, and the id if it is plain. -/
theorem pieces_url (hid : ∀ id ∈ r.pathId?, Plain id) :
    pieces (c.url r).path = ps ++ (segments r).map written := by
  obtain ⟨hhead, hplain⟩ := segments_plain hid
  have hne : segments r ≠ [] := by cases r <;> simp [segments]
  rw [path_url, (hopens.foldl_push hplain (.inr hhead)).pieces_eq]
  simp [hne]

/-- What is plain is read back from its code. -/
theorem decode_pieces_url (hid : ∀ id ∈ r.pathId?, Plain id) :
    (pieces (c.url r).path).map percentDecode =
      ps.map percentDecode ++ (segments r).map utf8 := by
  rw [pieces_url hopens hid, List.map_append, List.map_map]
  refine congrArg (_ ++ ·) (List.map_congr_left fun s hs => ?_)
  exact ((segments_plain hid).2 s hs).decode

/-- No word comes to be two pieces. -/
theorem length_pieces_url : (pieces (c.url r).path).length ≤ ps.length + (segments r).length := by
  have hshape := r.shape
  rw [path_url]
  generalize segments r = segments at hshape ⊢
  generalize r.pathId? = id? at hshape
  -- the words in front of an id are kept, and what comes behind cannot be more than it is
  have hbound {front : List String} (rest : List String) (hfront : front ∈ openings) :
      (pieces ((front ++ rest).foldl push (openPath c.baseUrl.path))).length ≤
        ps.length + (front ++ rest).length := by
    obtain ⟨hne, hhead, hplain⟩ := plain_opening _ hfront
    have hkept := hopens.foldl_push hplain (.inr hhead)
    have hpieces := hkept.pieces_eq (by simp [hne])
    have hrest := length_pieces_foldl_push hkept.head rest
    rw [hpieces, List.length_append, List.length_map] at hrest
    rw [List.foldl_append, List.length_append]
    omega
  cases hshape with
  | words front hfront => simpa using hbound [] hfront
  | gap front back id hfront hback => exact hbound _ hfront

/-- Only a plain id is read back from the path of a request. -/
theorem plain_of_decode {id : String} (hid : id ∈ r.pathId?)
    (h : (pieces (c.url r).path).map percentDecode =
      ps.map percentDecode ++ (segments r).map utf8) : Plain id := by
  have hshape := r.shape
  rw [path_url] at h
  generalize segments r = segments at hshape h
  generalize r.pathId? = id? at hshape hid
  cases hshape with
  | words front hfront => cases hid
  | gap front back id' hfront hback =>
      obtain rfl : id' = id := Option.some.inj hid
      obtain ⟨hne, hhead, hplain⟩ := plain_opening _ hfront
      have hkept := hopens.foldl_push hplain (.inr hhead)
      rw [List.foldl_append, List.foldl_cons] at h
      have hlength := congrArg List.length h
      simp only [List.length_map, List.length_append, List.length_cons] at hlength
      obtain ⟨s, hpieces, hs⟩ := hkept.piece_of_push (by simp [hne]) id' hback (by
        rw [List.length_append, List.length_map]
        omega)
      have hwords : (front.map written).map percentDecode = front.map utf8 := by
        rw [List.map_map]
        exact List.map_congr_left fun s hs => (hplain s hs).decode
      rw [hpieces] at h
      simp only [List.map_append, List.map_cons, hwords, List.append_assoc,
        List.append_cancel_left_eq, List.cons.injEq] at h
      rcases hs with ⟨rfl, hempty⟩ | ⟨rfl, hhere, habove⟩
      · exact absurd (Web.utf8_injective h.1.symm) hempty
      · have hsame := Web.Url.counted_of_decode h.1
        rw [Web.Url.counted, List.filter_eq_self] at hsame
        exact ⟨hhere, habove, fun c hc => by simpa using hsame c hc⟩

end

/-- A path of two slashes loses one of its pieces, so that no request is carried behind it. -/
theorem carries_iff {c : Client} (hbase : c.baseUrl.path.head? = some '/') (r : Request) :
    c.Carries r ↔ c.baseUrl.path ≠ ['/', '/'] ∧ ∀ id ∈ r.pathId?, Plain id := by
  constructor
  · intro h
    have hroot : c.baseUrl.path ≠ ['/', '/'] := by
      intro hroot
      have hopens : Opens (openPath c.baseUrl.path) [] := hroot ▸ Web.Url.opens_two_slashes
      have hbound := length_pieces_url (r := r) hopens
      have hlength := congrArg List.length h
      have hone : (trimmed c.baseUrl.path).length = 1 := by rw [hroot]; rfl
      simp only [List.length_map, List.length_append, List.length_nil] at hlength hbound
      omega
    exact ⟨hroot, fun id hid => plain_of_decode (Web.Url.opens_openPath hbase hroot) hid h⟩
  · rintro ⟨hroot, hid⟩
    exact decode_pieces_url (Web.Url.opens_openPath hbase hroot) hid

/-- With plain ids one path means one thing that is asked for, of one id. -/
theorem path_eq_iff {c : Client} (hbase : c.baseUrl.path.head? = some '/') {r r' : Request}
    (hid : ∀ id ∈ r.pathId?, Plain id) (hid' : ∀ id ∈ r'.pathId?, Plain id) :
    (c.url r).path = (c.url r').path ↔ r.pathWords = r'.pathWords ∧ r.pathId? = r'.pathId? := by
  constructor
  · intro h
    obtain ⟨ps, hopens⟩ : ∃ ps, Opens (openPath c.baseUrl.path) ps := by
      by_cases hroot : c.baseUrl.path = ['/', '/']
      · exact ⟨[], hroot ▸ Web.Url.opens_two_slashes⟩
      · exact ⟨_, Web.Url.opens_openPath hbase hroot⟩
    have hread := decode_pieces_url hopens hid
    rw [h, decode_pieces_url hopens hid', List.append_cancel_left_eq] at hread
    have hinjective : Function.Injective utf8 := fun _ _ => Web.utf8_injective
    exact Request.eq_of_segments (hinjective.list_map hread.symm)
  · rintro ⟨hwords, hsame⟩
    rw [path_url, path_url, r.segments_eq, r'.segments_eq, hwords, hsame]

theorem head?_baseUrl {base : String} {c : Client} (h : ofAddress base = .ok c) :
    c.baseUrl.path.head? = some '/' :=
  Web.Url.head?_path (parse?_trim_of_ofAddress h)

/-- Behind the address of a server, the path of a request carries its id as it is exactly if the id
is plain: neither `.` nor `..`, and without tabs and line breaks. No id is carried behind an address
whose path is two slashes. Behind any address, two requests with plain ids have one path exactly if
they ask for one thing of one id. -/
theorem request_paths_carry_ids {base : String} {client : Client}
    (hclient : ofAddress base = .ok client) :
    (∀ r, client.Carries r ↔
      client.baseUrl.path ≠ ['/', '/'] ∧ ∀ id ∈ r.pathId?, Plain id) ∧
    ∀ r r' : Request, (∀ id ∈ r.pathId?, Plain id) → (∀ id ∈ r'.pathId?, Plain id) →
      ((client.url r).path = (client.url r').path ↔
        r.pathWords = r'.pathWords ∧ r.pathId? = r'.pathId?) :=
  ⟨carries_iff (head?_baseUrl hclient), fun _ _ => path_eq_iff (head?_baseUrl hclient)⟩

/-- An id with a slash, a percent sign and a letter outside ASCII, behind a server's own path. -/
theorem special_characters_are_carried :
    let client : Client :=
      { baseUrl := { host := "localhost".toList, portNumber := some 3000, path := "/v1/".toList } }
    let r : Request := .deleteFunction "a/%é"
    ofAddress "http://localhost:3000/v1/" = .ok client ∧ (∀ id ∈ r.pathId?, Plain id) ∧
      (client.url r).path = "/v1/api/functions/a%2F%25%C3%A9".toList ∧ client.Carries r ∧
      (client.url r).path ≠ (client.url (.listFunctions 20 0)).path := by
  intro client r
  have hclient : ofAddress "http://localhost:3000/v1/" = .ok client :=
    ofAddress_of_parse? (by decide +kernel)
  have hid : ∀ id ∈ r.pathId?, Plain id := by
    rintro id ⟨⟩
    decide
  obtain ⟨hcarries, hpaths⟩ := request_paths_carry_ids hclient
  refine ⟨hclient, hid, by decide +kernel, (hcarries r).mpr ⟨by decide, hid⟩, ?_⟩
  rw [Ne, hpaths r (.listFunctions 20 0) hid nofun]
  exact fun h => absurd h.2 (by decide)

/-- The function `..` is deleted where all functions are listed, and the function with a tab in its
id is another one's. -/
theorem ids_are_lost :
    let client : Client := { baseUrl := { host := "localhost".toList, portNumber := some 3000 } }
    ofAddress "http://localhost:3000" = .ok client ∧
      ¬ client.Carries (.deleteFunction "..") ∧
      (client.url (.deleteFunction "..")).path = (client.url (.listFunctions 20 0)).path ∧
      client.url (.deleteFunction "a\tb") = client.url (.deleteFunction "ab") := by
  intro client
  refine ⟨ofAddress_of_parse? (by decide +kernel), ?_, by decide +kernel, by decide +kernel⟩
  unfold Carries
  decide +kernel

end Client

end FunctionConsole
