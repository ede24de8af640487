import FunctionConsole.Proofs.SettledAddress

/-!
# Usable settings

Whatever the settings are, validation makes every value usable: the page size is the nearest of
those to choose from, the times and counts are not too small, and the address is clean. The numbers
are left alone from then on. The address may be changed once more, and no number of validations is
enough for all settings; but each address is settled in the end, and then nothing changes any more.
-/

namespace FunctionConsole.Settings

open Text (EndsInBlank)

-- ==================================================== the nearest page size

/-- Of two sizes the one that is nearer to a number; of two equally near, the first. -/
def nearer (n best other : UInt64) : UInt64 :=
  if distance other n < distance best n then other else best

theorem distance_nearer_le (n best other : UInt64) :
    distance (nearer n best other) n ≤ distance best n ∧
      distance (nearer n best other) n ≤ distance other n := by
  rw [nearer]
  split
  · next h => exact ⟨UInt64.le_of_lt h, UInt64.le_refl _⟩
  · next h => exact ⟨UInt64.le_refl _, UInt64.not_lt.mp h⟩

theorem foldl_nearer (n : UInt64) (sizes : List UInt64) (best : UInt64) :
    sizes.foldl (nearer n) best ∈ best :: sizes ∧
      ∀ size ∈ best :: sizes, distance (sizes.foldl (nearer n) best) n ≤ distance size n := by
  induction sizes generalizing best with
  | nil =>
      refine ⟨List.mem_cons_self, fun size hsize => ?_⟩
      rw [List.mem_singleton.mp hsize]
      exact UInt64.le_refl _
  | cons other sizes ih =>
      rw [List.foldl_cons]
      obtain ⟨hmem, hleast⟩ := ih (nearer n best other)
      obtain ⟨hbest, hother⟩ := distance_nearer_le n best other
      have hfirst := hleast _ List.mem_cons_self
      constructor
      · rcases List.mem_cons.mp hmem with heq | hmem
        · rw [heq, nearer]
          split
          · exact List.mem_cons_of_mem _ List.mem_cons_self
          · exact List.mem_cons_self
        · exact List.mem_cons_of_mem _ (List.mem_cons_of_mem _ hmem)
      · intro size hsize
        rcases List.mem_cons.mp hsize with rfl | hsize
        · exact UInt64.le_trans hfirst hbest
        · rcases List.mem_cons.mp hsize with rfl | hsize
          · exact UInt64.le_trans hfirst hother
          · exact hleast size (List.mem_cons_of_mem _ hsize)

theorem nearestPageSize_mem (n : UInt64) : nearestPageSize n ∈ pageSizes := by
  rcases List.mem_cons.mp (foldl_nearer n pageSizes (pageSizes.headD 20)).1 with heq | hmem
  · have hfirst : pageSizes.headD 20 ∈ pageSizes := List.mem_cons_self
    rw [← heq] at hfirst
    exact hfirst
  · exact hmem

theorem distance_nearestPageSize_le (n : UInt64) {size : UInt64} (h : size ∈ pageSizes) :
    distance (nearestPageSize n) n ≤ distance size n :=
  (foldl_nearer n pageSizes (pageSizes.headD 20)).2 size (List.mem_cons_of_mem _ h)

theorem distance_eq_zero_iff {a n : UInt64} : distance a n = 0 ↔ a = n := by
  rw [distance, ← UInt64.toNat_inj, ← UInt64.toNat_inj]
  split
  · next h =>
      rw [UInt64.toNat_sub_of_le _ _ h]
      rw [UInt64.le_iff_toNat_le] at h
      simp only [UInt64.toNat_zero]
      omega
  · next h =>
      have hle : n ≤ a := UInt64.le_of_lt (UInt64.not_le.mp h)
      rw [UInt64.toNat_sub_of_le _ _ hle]
      rw [UInt64.le_iff_toNat_le] at h hle
      simp only [UInt64.toNat_zero]
      omega

/-- A size that can be chosen is the nearest to itself. -/
theorem nearestPageSize_of_mem {n : UInt64} (h : n ∈ pageSizes) : nearestPageSize n = n := by
  have hle := distance_nearestPageSize_le n h
  rw [distance_eq_zero_iff.mpr rfl] at hle
  exact distance_eq_zero_iff.mp (UInt64.le_zero_iff.mp hle)

-- ==================================================== validation

/-- Settings whose values can be used, in place of given ones. -/
structure Usable (given s : Settings) : Prop where
  address : CleanUrl s.server.baseUrl
  pageSize : s.ui.pageSize ∈ pageSizes
  nearest : ∀ size ∈ pageSizes,
    distance s.ui.pageSize given.ui.pageSize ≤ distance size given.ui.pageSize
  tickRate : minTickRateMs ≤ s.ui.tickRateMs
  paletteLimit : 1 ≤ s.ui.paletteLimit

/-- The settings that validation comes to in the end. -/
def settled (s : Settings) : Settings :=
  { s.validated with server := { s.server with baseUrl := settledUrl s.server.baseUrl } }

attribute [ext] UiSettings Settings

variable {s : Settings}

theorem server_validated (s : Settings) :
    s.validated.server = { s.server with baseUrl := cleanUrl s.server.baseUrl } := by
  rw [validated]

theorem baseUrl_validated (s : Settings) :
    s.validated.server.baseUrl = cleanUrl s.server.baseUrl := by
  rw [server_validated]

theorem cleanUrl_of_validated_eq (h : s.validated = s) :
    cleanUrl s.server.baseUrl = s.server.baseUrl := by
  rw [← baseUrl_validated, h]

theorem pageSize_validated (s : Settings) :
    s.validated.ui.pageSize = nearestPageSize s.ui.pageSize := by
  rw [validated]

theorem toastDurationMs_validated (s : Settings) :
    s.validated.ui.toastDurationMs = s.ui.toastDurationMs := by
  rw [validated]

theorem tickRateMs_validated (s : Settings) :
    s.validated.ui.tickRateMs = max s.ui.tickRateMs minTickRateMs := by
  rw [validated]

theorem paletteLimit_validated (s : Settings) :
    s.validated.ui.paletteLimit = if s.ui.paletteLimit = 0 then 100 else s.ui.paletteLimit := by
  rw [validated]

theorem ui_validated_congr {t : Settings} (h : s.ui = t.ui) : s.validated.ui = t.validated.ui := by
  rw [validated, validated, h]

/-- The numbers are left alone after one validation. -/
theorem ui_validated_validated (s : Settings) : s.validated.validated.ui = s.validated.ui := by
  apply UiSettings.ext
  · rw [pageSize_validated, pageSize_validated]
    exact nearestPageSize_of_mem (nearestPageSize_mem _)
  · rw [toastDurationMs_validated]
  · rw [paletteLimit_validated, paletteLimit_validated]
    split <;> rfl
  · rw [tickRateMs_validated, tickRateMs_validated, ← UInt64.toNat_inj, UInt64.toNat_max,
      UInt64.toNat_max]
    omega

theorem usable_of_ui {v : Settings} (haddress : CleanUrl v.server.baseUrl)
    (hui : v.ui = s.validated.ui) : Usable s v where
  address := haddress
  pageSize := by
    rw [hui, pageSize_validated]
    exact nearestPageSize_mem _
  nearest := fun size hsize => by
    rw [hui, pageSize_validated]
    exact distance_nearestPageSize_le _ hsize
  tickRate := by
    rw [hui, tickRateMs_validated, UInt64.le_iff_toNat_le, UInt64.toNat_max]
    exact Nat.le_max_right _ _
  paletteLimit := by
    rw [hui, paletteLimit_validated]
    split
    · decide
    · next h =>
        rw [← UInt64.toNat_inj] at h
        rw [UInt64.le_iff_toNat_le]
        exact Nat.one_le_iff_ne_zero.mpr h

theorem server_iterate (s : Settings) (n : Nat) :
    (validated^[n] s).server = { s.server with baseUrl := cleanUrl^[n] s.server.baseUrl } := by
  induction n with
  | zero => rfl
  | succ n ih =>
      rw [Function.iterate_succ_apply', server_validated, ih, Function.iterate_succ_apply' cleanUrl]

theorem ui_iterate (s : Settings) (n : Nat) : (validated^[n + 1] s).ui = s.validated.ui := by
  induction n with
  | zero => rw [Function.iterate_succ_apply, Function.iterate_zero_apply]
  | succ n ih =>
      rw [Function.iterate_succ_apply', Function.iterate_succ_apply', ui_validated_validated,
        ← Function.iterate_succ_apply' validated, ih]

theorem server_settled (s : Settings) :
    s.settled.server = { s.server with baseUrl := settledUrl s.server.baseUrl } := rfl

theorem ui_settled (s : Settings) : s.settled.ui = s.validated.ui := rfl

theorem iterate_eq_settled {n : Nat} (h : s.server.baseUrl.length < n) :
    validated^[n] s = s.settled := by
  obtain ⟨n, rfl⟩ := Nat.exists_eq_succ_of_ne_zero (Nat.ne_zero_of_lt h)
  apply Settings.ext
  · rw [server_iterate, server_settled, cleanUrl_iterate h]
  · rw [ui_iterate, ui_settled]

theorem validated_eq_iff (s : Settings) :
    s.validated.validated = s.validated ↔ ¬ EndsInBlank s.validated.server.baseUrl.toList := by
  rw [baseUrl_validated, ← settled_cleanUrl_iff]
  constructor
  · intro h
    have haddress := cleanUrl_of_validated_eq h
    rw [baseUrl_validated] at haddress
    exact settled_of_cleanUrl_eq haddress
  · intro hsettled
    apply Settings.ext
    · rw [server_validated, server_validated, hsettled.cleanUrl_eq]
    · exact ui_validated_validated s

/-- Validation makes every value usable, and leaves all numbers alone from then on. It changes the
address again exactly if the address ends in a blank then, which is one that stood before the
slashes at its end. Validation comes to an end after as many times as the address has characters,
and one more: then everything is usable, no blank is left at the end of the address, and nothing
changes any more. -/
theorem validation_settles (s : Settings) :
    Usable s s.validated ∧
    (s.validated.validated = s.validated ↔ ¬ EndsInBlank s.validated.server.baseUrl.toList) ∧
    (EndsInBlank s.validated.server.baseUrl.toList ↔
      ∃ front slashes, EndsInBlank front ∧ slashes ≠ [] ∧ (∀ c ∈ slashes, c = '/') ∧
        Text.trimChars s.server.baseUrl.toList = front ++ slashes) ∧
    s.validated.validated.ui = s.validated.ui ∧
    (∀ n, s.server.baseUrl.length < n → validated^[n] s = s.settled) ∧
    Usable s s.settled ∧ ¬ EndsInBlank s.settled.server.baseUrl.toList ∧
    s.settled.validated = s.settled := by
  have hsettled : SettledUrl s.settled.server.baseUrl := by
    rw [server_settled]
    exact settled_settledUrl _
  have haddress : CleanUrl s.validated.server.baseUrl := by
    rw [baseUrl_validated]
    exact clean_cleanUrl _
  refine ⟨usable_of_ui haddress rfl, validated_eq_iff s, ?_, ui_validated_validated s,
    fun n => iterate_eq_settled, usable_of_ui hsettled.toCleanUrl (ui_settled s), hsettled.unblank,
    ?_⟩
  · rw [baseUrl_validated, cleanUrl_eq, endsInBlank_orAssumed_iff, endsInBlank_stripped_iff]
  · apply Settings.ext
    · rw [server_validated, hsettled.cleanUrl_eq]
    · rw [ui_validated_congr (ui_settled s), ui_validated_validated, ui_settled]

/-- A blank that stands before the slash at the end of an address is left by validation, and the
next validation drops it. No number of validations is enough for all settings. -/
theorem blank_before_slash_outlasts_validation :
    ({ server := { baseUrl := "http://localhost:8080 /" } } : Settings).validated.server.baseUrl =
        "http://localhost:8080 " ∧
      (∀ n, ∃ s : Settings, (validated^[n] s).validated ≠ validated^[n] s) ∧
      ¬ ∀ s : Settings, s.validated.validated = s.validated := by
  have hunsettled : ∀ n, ∃ s : Settings, (validated^[n] s).validated ≠ validated^[n] s := by
    intro n
    refine ⟨{ server := { baseUrl := spacedUrl n } }, fun h => ?_⟩
    have haddress := cleanUrl_of_validated_eq h
    rw [server_iterate, iterate_spacedUrl] at haddress
    have hchanged : ¬ cleanUrl "a " = "a " := by decide
    exact hchanged haddress
  refine ⟨?_, hunsettled, fun hall => ?_⟩
  · rw [baseUrl_validated]
    decide +kernel
  · obtain ⟨s, hs⟩ := hunsettled 1
    exact hs (hall s)

end FunctionConsole.Settings
