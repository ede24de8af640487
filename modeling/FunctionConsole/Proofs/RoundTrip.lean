import FunctionConsole.Proofs.Json.Formats
import FunctionConsole.Resource.Diff
import FunctionConsole.Resource.Listing

/-!
# Resources survive being written and read

Everything that the server sends is read back from the text that is written for it, whatever the
texts, numbers and maps in it are. Each format is put together from formats that recover what they
write, and each proof here follows the definition of its format. What is left to show are the
details of a resource: that its keys are distinct, that each name of an enumeration stands for its
value, and that a map is kept by putting its entries together again.
-/

namespace FunctionConsole

open Json (Format)
open Json.Format

-- ==================================================== formats that lose nothing

/-- Reading a text, and writing what was read. -/
def Json.Format.reencode {α : Type} (f : Format α) (text : String) : Except Json.Fault String :=
  (f.decode text).map f.text

/-- A format loses nothing: every value is read back from its text, and a text that was written for
something read is left as it is when it is read and written once more. -/
structure Json.Format.RoundTrips {α : Type} (f : Format α) : Prop where
  decode_text : ∀ a, f.decode (f.text a) = .ok a
  reencode_eq : ∀ text text', f.reencode text = .ok text' → f.reencode text' = .ok text'

theorem Json.Format.roundTrips_of_recovers {α : Type} {f : Format α} (h : ∀ a, f.Recovers a) :
    f.RoundTrips := by
  refine ⟨fun a => (h a).decode, fun text text' htext => ?_⟩
  unfold reencode at htext ⊢
  cases hdecode : f.decode text with
  | error e =>
      rw [hdecode] at htext
      cases htext
  | ok a =>
      rw [hdecode] at htext
      cases htext
      rw [(h a).decode]
      rfl

-- ==================================================== optional fields

theorem recovers_optional_string (o : Option String) : Format.string.option.Recovers o :=
  recovers_option recovers_string head?_string o

theorem recovers_optional_u32 (o : Option UInt32) : Format.u32.option.Recovers o :=
  recovers_option recovers_u32 head?_bounded o

theorem recovers_optional_u64 (o : Option UInt64) : Format.u64.option.Recovers o :=
  recovers_option recovers_u64 head?_bounded o

theorem recovers_optional_i64 (o : Option Int64) : Format.i64.option.Recovers o :=
  recovers_option recovers_i64 head?_bounded o

-- ==================================================== environment variables

namespace EnvVars

/-- Putting entries with ascending keys behind those of a map gives all of them. -/
theorem entries_foldl_insert {l : List (String × String)} {vars : EnvVars}
    (h : (vars.entries ++ l).Pairwise fun a b => a.1 < b.1) :
    (l.foldl (fun vars e => vars.insert e.1 e.2) vars).entries = vars.entries ++ l := by
  induction l generalizing vars with
  | nil => exact (List.append_nil _).symm
  | cons e l ih =>
      have hlast : ∀ b ∈ vars.entries, b.1 < e.1 := fun b hb =>
        (List.pairwise_append.mp h).2.2 b hb e List.mem_cons_self
      have hinsert : (vars.insert e.1 e.2).entries = vars.entries ++ [e] :=
        putField_of_lt hlast e.2
      have happend : vars.entries ++ e :: l = (vars.insert e.1 e.2).entries ++ l := by
        rw [hinsert, List.append_assoc, List.singleton_append]
      rw [happend] at h ⊢
      exact ih h

/-- Maps with the same entries are equal. -/
theorem eq_of_entries {vars vars' : EnvVars} (h : vars.entries = vars'.entries) : vars = vars' := by
  cases vars
  cases vars'
  cases h
  rfl

/-- A map is the map of its entries. -/
theorem ofList_entries (vars : EnvVars) : ofList vars.entries = vars :=
  eq_of_entries (entries_foldl_insert vars.ascending)

theorem recovers_format (vars : EnvVars) : format.Recovers vars := by
  refine recovers_convert ?_ (ofList_entries vars)
  exact recovers_entries vars.ascending fun e _ => recovers_string e.2

end EnvVars

-- ==================================================== functions and versions

theorem ActiveVersion.recovers_format (v : ActiveVersion) : ActiveVersion.format.Recovers v := by
  refine recovers_convert (recovers_record _ ?_ (by decide)) rfl
  exact ⟨recovers_u32 v.version, recovers_string v.code, trivial⟩

theorem Function.recovers_format (f : Function) : Function.format.Recovers f := by
  refine recovers_convert (recovers_record _ ?_ (by decide)) rfl
  exact ⟨recovers_string f.id, recovers_string f.name, recovers_optional_string f.description,
    recovers_bool f.disabled, f.activeVersion.recovers_format, f.envVars.recovers_format,
    recovers_optional_i64 f.createdAt, recovers_optional_i64 f.updatedAt, trivial⟩

theorem Version.recovers_format (v : Version) : Version.format.Recovers v := by
  refine recovers_convert (recovers_record _ ?_ (by decide)) rfl
  exact ⟨recovers_u32 v.version, recovers_i64 v.createdAt, recovers_string v.code, trivial⟩

-- ==================================================== executions and log lines

/-- The name of every status stands for it, and so does that of the status for unknown names. -/
theorem ExecutionStatus.recovers_format (s : ExecutionStatus) :
    ExecutionStatus.format.Recovers s := by
  refine recovers_enumeration ?_
  cases s <;> rfl

theorem Execution.recovers_format (e : Execution) : Execution.format.Recovers e := by
  refine recovers_convert (recovers_record _ ?_ (by decide)) rfl
  exact ⟨recovers_string e.id, recovers_string e.functionId, e.status.recovers_format,
    recovers_optional_u64 e.durationMs, recovers_i64 e.createdAt,
    recovers_optional_string e.eventJson, recovers_optional_string e.errorMessage, trivial⟩

theorem LogLevel.recovers_format (l : LogLevel) : LogLevel.format.Recovers l := by
  refine recovers_enumeration ?_
  cases l <;> rfl

theorem ExecutionLog.recovers_format (l : ExecutionLog) : ExecutionLog.format.Recovers l := by
  refine recovers_convert (recovers_record _ ?_ (by decide)) rfl
  exact ⟨recovers_i64 l.id, recovers_string l.executionId, l.level.recovers_format,
    recovers_string l.message, recovers_i64 l.createdAt, trivial⟩

-- ==================================================== differences

theorem LineType.recovers_format (t : LineType) : LineType.format.Recovers t := by
  refine recovers_enumeration ?_
  cases t <;> rfl

theorem DiffLine.recovers_format (l : DiffLine) : DiffLine.format.Recovers l := by
  refine recovers_convert (recovers_record _ ?_ (by decide)) rfl
  exact ⟨recovers_optional_u32 l.oldLine, recovers_optional_u32 l.newLine,
    l.lineType.recovers_format, recovers_string l.content, trivial⟩

theorem VersionDiff.recovers_format (d : VersionDiff) : VersionDiff.format.Recovers d := by
  refine recovers_convert (recovers_record _ ?_ (by decide)) rfl
  exact ⟨recovers_u32 d.oldVersion, recovers_u32 d.newVersion,
    recovers_list fun l _ => l.recovers_format, trivial⟩

-- ==================================================== pages of lists

theorem Pagination.recovers_format (p : Pagination) : Pagination.format.Recovers p := by
  refine recovers_convert (recovers_record _ ?_ (by decide)) rfl
  exact ⟨recovers_u64 p.total, recovers_u64 p.limit, recovers_u64 p.offset, trivial⟩

/-- A page is recovered if its rows are, unless they stand under the key of the block. -/
theorem Listing.recovers_format {α : Type} {name key : String} {row : Format α}
    (hkey : key ≠ "pagination") (h : ∀ a, row.Recovers a) (l : Listing α) :
    (Listing.format name key row).Recovers l := by
  have hrows : row.list.option.Recovers (some l.rows) :=
    recovers_some (recovers_list fun a _ => h a) fun hnull => by cases hnull
  have hnames : [key, "pagination"].Nodup := by simpa using hkey
  refine recovers_convert (recovers_record name ?_ hnames) rfl
  exact ⟨recovers_orNull hrows [], l.pagination.recovers_format, trivial⟩

-- ==================================================== the resources

/-- Every resource survives being written and read: whatever the texts, the numbers, the missing
fields and the variables in it are, it is read back from its compact text. And what is written for
anything that was read, be it from a text of the server's own, stays the same from then on. -/
theorem resources_round_trip :
    Function.format.RoundTrips ∧ ActiveVersion.format.RoundTrips ∧ Version.format.RoundTrips ∧
      Execution.format.RoundTrips ∧ ExecutionLog.format.RoundTrips ∧ DiffLine.format.RoundTrips ∧
      VersionDiff.format.RoundTrips ∧ Pagination.format.RoundTrips ∧
      Listing.functions.RoundTrips ∧ Listing.versions.RoundTrips ∧
      Listing.executions.RoundTrips ∧ Listing.logs.RoundTrips := by
  refine ⟨?_, ?_, ?_, ?_, ?_, ?_, ?_, ?_, ?_, ?_, ?_, ?_⟩
  · exact roundTrips_of_recovers Function.recovers_format
  · exact roundTrips_of_recovers ActiveVersion.recovers_format
  · exact roundTrips_of_recovers Version.recovers_format
  · exact roundTrips_of_recovers Execution.recovers_format
  · exact roundTrips_of_recovers ExecutionLog.recovers_format
  · exact roundTrips_of_recovers DiffLine.recovers_format
  · exact roundTrips_of_recovers VersionDiff.recovers_format
  · exact roundTrips_of_recovers Pagination.recovers_format
  · exact roundTrips_of_recovers (Listing.recovers_format (by decide) Function.recovers_format)
  · exact roundTrips_of_recovers (Listing.recovers_format (by decide) Version.recovers_format)
  · exact roundTrips_of_recovers (Listing.recovers_format (by decide) Execution.recovers_format)
  · exact roundTrips_of_recovers (Listing.recovers_format (by decide) ExecutionLog.recovers_format)

end FunctionConsole
