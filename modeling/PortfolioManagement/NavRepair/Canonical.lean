import PortfolioManagement.NavRepair.Resolved

/-!
# The patched series

A row is canonical when recomputing it among the rows of its series gives its numbers. Once a plan is
applied, its targets are canonical, and the first rows after changed ones, which the planner validated.
Another row that was canonical stays so as long as no base row of its month, of its year or of the
inception changes; the validation does not look at it.
-/

namespace PortfolioManagement.NavRepair

open Nav

/-! ## Rows that agree -/

section
variable {config : NavConfig} {rows : List FreshNavRow} {d : CivilDate}
  {ds : Ledger.CashFlowDatasetSnapshot} {n n' : FreshNavRow → NAVHistory}

/-- Two records of every row agree on the base rows of a day. -/
structure AgreeOn (config : NavConfig) (rows : List FreshNavRow) (d : CivilDate)
    (n n' : FreshNavRow → NAVHistory) : Prop where
  /-- the row before the day -/
  last : ∀ row, latestBefore (·.date) rows d = some row → n' row = n row
  /-- the end of the month before -/
  monthEnd : ∀ row, prevMonthEndRow (·.date) rows d = some row → n' row = n row
  /-- the first row of the month -/
  month : ∀ row, firstInMonthRow (·.date) rows d = some row → n' row = n row
  /-- the end of the year before -/
  yearEnd : ∀ row, yearEndRow (·.date) rows (d.year - 1) = some row → n' row = n row
  /-- the first row of the year -/
  year : ∀ row, firstInYearRow (·.date) rows d = some row → n' row = n row
  /-- the end of the year before the first one -/
  first : config.startYear ≤ d.year → ∀ row,
    yearEndRow (·.date) rows (config.startYear - 1) = some row → n' row = n row

theorem map_congr_of_eq {α β : Type} {o : Option α} {f g : α → β} (h : ∀ a, o = some a → f a = g a) :
    o.map f = o.map g := by
  cases o with
  | none => rfl
  | some a => exact congrArg some (h a rfl)

theorem summaryFor_map (hn : ∀ row, (n row).date = row.date) :
    summaryFor ds (rows.map n) d = ds.summary ((latestBefore (·.date) rows d).map (·.date)) := by
  unfold summaryFor
  rw [findLatestBefore_map hn, Option.map_map]
  exact congrArg ds.summary (map_congr_of_eq fun row _ => hn row)

theorem firstBaseOf_map (hn : ∀ row, (n row).date = row.date) (startYear : Nat)
    (summary : Ledger.Summary) :
    firstBaseOf (yearlyDataOf (NavIndex.build (rows.map n)) startYear d summary) startYear =
      if startYear ≤ d.year then (yearEndRow (·.date) rows (startYear - 1)).map n else none := by
  unfold firstBaseOf yearlyDataOf
  by_cases hyear : startYear ≤ d.year
  · have hlength : d.year + 1 - startYear = (d.year - startYear) + 1 := by omega
    rw [if_pos hyear, hlength, List.range'_succ, List.map_cons, List.lookup_cons, beq_self_eq_true]
    exact findYearEnd_map hn (startYear - 1)
  · have hlength : d.year + 1 - startYear = 0 := by omega
    rw [if_neg hyear, hlength]
    rfl

/-- Records that agree on the base rows give a day the same bases. -/
theorem sameBases_of_agree (hn : ∀ row, (n row).date = row.date) (hn' : ∀ row, (n' row).date = row.date)
    (h : AgreeOn config rows d n n')
    (hinitial : getInitialValue config (rows.map n') = getInitialValue config (rows.map n) ∨
      getInitialValue config (rows.map n') ≠ some 0) :
    SameBases config d ds (rows.map n) (rows.map n') where
  inputs := by
    have hmonth : (monthBaseRow (·.date) rows d).map n' = (monthBaseRow (·.date) rows d).map n := by
      unfold monthBaseRow
      rw [Option.map_or, Option.map_or, map_congr_of_eq h.monthEnd, map_congr_of_eq h.month]
    have hyear : (yearBaseRow (·.date) rows d).map n' = (yearBaseRow (·.date) rows d).map n := by
      unfold yearBaseRow
      rw [Option.map_or, Option.map_or, map_congr_of_eq h.yearEnd, map_congr_of_eq h.year]
    unfold inputsOn
    rw [periodInputs_map hn, periodInputs_map hn', getInitialValue_map hn', summaryFor_map hn,
      summaryFor_map hn', map_congr_of_eq h.last, map_congr_of_eq h.monthEnd,
      map_congr_of_eq h.yearEnd, hmonth, hyear]
  firstBase := by
    unfold yearlyOn
    rw [firstBaseOf_map hn, firstBaseOf_map hn']
    split
    next hyear => exact map_congr_of_eq (h.first hyear)
    · rfl
  initial := hinitial

end

/-! ## The base rows of a day are before it -/

section
variable {rows : List FreshNavRow} {d : CivilDate} {row : FreshNavRow}

theorem latestBefore_lt (h : latestBefore (·.date) rows d = some row) : row ∈ rows ∧ row.date < d := by
  obtain ⟨hmem, hlt⟩ := mem_of_getLast?_rowsOn h
  exact ⟨hmem, of_decide_eq_true hlt⟩

theorem prevMonthEndRow_lt (h : prevMonthEndRow (·.date) rows d = some row) :
    row ∈ rows ∧ row.date < d := by
  obtain ⟨hmem, hmonth⟩ := mem_of_getLast?_rowsOn h
  have hnav : monthOf row.nav = NavIndex.prevMonth d := of_decide_eq_true hmonth
  have hlt : row.nav.date < d := date_lt_of_monthOf hnav
  exact ⟨hmem, hlt⟩

theorem yearEndRow_lt {year : Nat} (hyear : year ≤ d.year)
    (h : yearEndRow (·.date) rows (year - 1) = some row) : row ∈ rows ∧ row.date < d := by
  obtain ⟨hmem, hrow⟩ := mem_of_getLast?_rowsOn h
  have hrow : row.date.year = year - 1 := of_decide_eq_true hrow
  have hvalid := row.date.valid.1
  exact ⟨hmem, CivilDate.lt_of_year_lt (by omega)⟩

theorem mem_of_firstRow {p : CivilDate → Bool}
    (h : ((rowsOn (·.date) rows p).head?).filter (fun a => a.date < d) = some row) :
    row ∈ rows ∧ row.date < d := by
  obtain ⟨hhead, hlt⟩ := Option.filter_eq_some_iff.mp h
  have hmem := List.mem_of_mem_head? hhead
  exact ⟨mem_sortBy.mp (List.mem_of_mem_filter hmem), of_decide_eq_true hlt⟩

theorem earliestRow_le (h : earliestRow (·.date) rows = some row) :
    row ∈ rows ∧ ∀ other ∈ rows, row.date ≤ other.date := by
  unfold earliestRow at h
  cases hsorted : sortBy (·.date) rows with
  | nil =>
    rw [hsorted] at h
    cases h
  | cons first rest =>
    rw [hsorted] at h
    cases h
    have hmem : row ∈ sortBy (·.date) rows := hsorted ▸ List.mem_cons_self
    refine ⟨mem_sortBy.mp hmem, fun other hother => ?_⟩
    have hpairwise : (sortBy (·.date) rows).Pairwise fun a b : FreshNavRow => a.date ≤ b.date :=
      List.pairwise_insertionSort _ _
    rw [hsorted] at hpairwise
    have hother : other ∈ row :: rest := hsorted ▸ mem_sortBy.mpr hother
    rcases List.mem_cons.mp hother with rfl | hrest
    · exact le_rfl
    · exact (List.pairwise_cons.mp hpairwise).1 other hrest

end

/-! ## Canonical rows -/

section
variable (lrt : Ledger.Runtime) (rt : Runtime) (context : RepairContext)

/-- A row is canonical in a series: recomputing it gives its numbers. The effect gate and the run id
decide only whether it is recomputed. -/
def Canonical (rows : List FreshNavRow) (row : FreshNavRow) : Prop :=
  ∃ gate runId candidate ds,
    recomputeDerivedRow lrt rt context gate row (rows.map (·.nav)) runId = .ok (candidate, ds) ∧
      ∀ field ∈ validationFields, candidate.states field = row.states field

/-- The rows once a plan is applied. -/
def patchedRows (plan : PatchPlan) (fresh : List FreshNavRow) : List FreshNavRow :=
  fresh.map (appliedRow plan.rows)

/-- The plan names the row. -/
def IsTarget (plan : PatchPlan) (row : FreshNavRow) : Prop :=
  ∃ target ∈ plan.rows, target.recordId = row.recordId

/-- The plan changes the row. -/
def Changes (plan : PatchPlan) (row : FreshNavRow) : Prop := appliedRow plan.rows row ≠ row

/-- The row is the first one after a row that the plan changes. -/
def FollowsChange (plan : PatchPlan) (fresh : List FreshNavRow) (row : FreshNavRow) : Prop :=
  ∃ changed ∈ fresh, Changes plan changed ∧ changed.date < row.date ∧
    ∀ other ∈ fresh, changed.date < other.date → row.date ≤ other.date

/-- A base row of a day other than the row before it: of its month, of its year or of the inception. -/
inductive OtherBase (config : NavConfig) (fresh : List FreshNavRow) (d : CivilDate) :
    FreshNavRow → Prop
  | monthEnd {base : FreshNavRow} (h : prevMonthEndRow (·.date) fresh d = some base) :
      OtherBase config fresh d base
  | month {base : FreshNavRow} (h : firstInMonthRow (·.date) fresh d = some base) :
      OtherBase config fresh d base
  | yearEnd {base : FreshNavRow} (h : yearEndRow (·.date) fresh (d.year - 1) = some base) :
      OtherBase config fresh d base
  | year {base : FreshNavRow} (h : firstInYearRow (·.date) fresh d = some base) :
      OtherBase config fresh d base
  | first {base : FreshNavRow} (hyear : config.startYear ≤ d.year)
      (h : yearEndRow (·.date) fresh (config.startYear - 1) = some base) : OtherBase config fresh d base
  | earliest {base : FreshNavRow} (h : earliestRow (·.date) fresh = some base) :
      OtherBase config fresh d base

end

/-! ## What the plan changes -/

section
variable {lrt : Ledger.Runtime} {rt : Runtime} {context : RepairContext}
  {gate : CivilDate → Ledger.EffectService} {fresh : List FreshNavRow} {patches : List PatchRow}
  {plan : PatchPlan} {series : List NAVHistory} {row : FreshNavRow}

theorem patchedRows_nav : (patchedRows plan fresh).map (·.nav) = appliedNavs fresh plan.rows := by
  unfold patchedRows appliedNavs
  rw [List.map_map]
  rfl

theorem appliedNavs_dates (rows : List PatchTarget) :
    (appliedNavs fresh rows).map (·.date) = fresh.map (·.date) := by
  unfold appliedNavs
  rw [List.map_map]
  exact List.map_congr_left fun row _ => appliedRow_date

/-- The accounts of the rows stay as they are. -/
theorem appliedNavs_accounts {rows rows' : List PatchTarget} {account : String}
    (h : ∀ nav ∈ appliedNavs fresh rows, nav.account = account) :
    ∀ nav ∈ appliedNavs fresh rows', nav.account = account := by
  intro nav hnav
  obtain ⟨row, hrow, rfl⟩ := List.mem_map.mp hnav
  have hold := h _ (List.mem_map.mpr ⟨row, hrow, rfl⟩)
  rw [FreshNavRow.nav_account, appliedRow_account] at hold ⊢
  exact hold

/-- A target of a resolved plan: its row, and its recomputation among the targets before it. -/
theorem ResolvedPlan.target (h : ResolvedPlan lrt rt context gate fresh patches plan series)
    {t : PatchTarget} (ht : t ∈ plan.rows) :
    ∃ before after observed candidate, plan.rows = before ++ t :: after ∧
      ResolvedTarget lrt rt context gate fresh before t observed candidate := by
  obtain ⟨before, after, observed, candidate, hsplit, hresolved⟩ := h.chain.split t ht
  exact ⟨before, after, observed, candidate, hsplit, hresolved⟩

/-- The day of a target is that of its row. -/
theorem ResolvedPlan.target_row (h : ResolvedPlan lrt rt context gate fresh patches plan series)
    {t : PatchTarget} (ht : t ∈ plan.rows) :
    ∃ observed ∈ fresh, t.recordId = observed.recordId ∧ t.date = observed.date := by
  obtain ⟨before, after, observed, candidate, -, hresolved⟩ := h.target ht
  refine ⟨observed, hresolved.mem, ?_⟩
  rw [hresolved.target]
  exact ⟨rfl, rfl⟩

/-- A row whose day is one of a target is the row of that target. -/
theorem ResolvedPlan.isTarget_of_date (h : ResolvedPlan lrt rt context gate fresh patches plan series)
    (hrow : row ∈ fresh) (hdate : row.date ∈ plan.rows.map (·.date)) : IsTarget plan row := by
  obtain ⟨t, ht, hsame⟩ := List.mem_map.mp hdate
  obtain ⟨observed, hobserved, hid, hday⟩ := h.target_row ht
  obtain rfl := eq_of_key_eq h.distinct hobserved hrow (hday.symm.trans hsame)
  exact ⟨t, ht, hid⟩

/-- The target that the plan finds for the row of a resolved target. -/
theorem ResolvedPlan.targetOf_eq (h : ResolvedPlan lrt rt context gate fresh patches plan series)
    (hids : (fresh.map (·.recordId)).Nodup) (hdates : (patches.map (·.d)).Nodup) {t : PatchTarget}
    (ht : t ∈ plan.rows) : targetOf plan.rows t.recordId = some t := by
  cases hfind : targetOf plan.rows t.recordId with
  | none => exact absurd rfl (targetOf_eq_none.mp hfind t ht)
  | some other =>
    obtain ⟨hother, hid⟩ := mem_of_targetOf hfind
    obtain ⟨row, hrow, hrowId, hrowDate⟩ := h.target_row ht
    obtain ⟨row', hrow', hrowId', hrowDate'⟩ := h.target_row hother
    obtain rfl := eq_of_key_eq hids hrow' hrow (hrowId'.symm.trans (hid.trans hrowId))
    have hnodup : (plan.rows.map (·.date)).Nodup := h.dates ▸ hdates
    rw [eq_of_key_eq hnodup hother ht (hrowDate'.trans hrowDate.symm)]

/-- The patched row of a target is the recomputed one. -/
theorem ResolvedPlan.appliedRow_target (h : ResolvedPlan lrt rt context gate fresh patches plan series)
    (hids : (fresh.map (·.recordId)).Nodup) (hdates : (patches.map (·.d)).Nodup) {t : PatchTarget}
    (ht : t ∈ plan.rows) {before : List PatchTarget} {observed candidate : FreshNavRow}
    (hresolved : ResolvedTarget lrt rt context gate fresh before t observed candidate) :
    appliedRow plan.rows observed = candidate := by
  have hid : t.recordId = observed.recordId := by
    rw [hresolved.target]
    rfl
  unfold appliedRow
  rw [← hid, h.targetOf_eq hids hdates ht]
  show t.desired observed = candidate
  rw [hresolved.target]
  exact planRow_desired hresolved.maintains

/-- The fields of a changed row are recorded. -/
theorem originalFields_ne_targetFields {observed candidate : FreshNavRow}
    (h : Maintains observed candidate) (hne : candidate ≠ observed) :
    (planRow observed candidate).originalFields ≠ (planRow observed candidate).targetFields := by
  intro heq
  refine hne (FreshNavRow.ext h.recordId h.account h.date fun field => ?_)
  by_cases hmem : field ∈ maintenanceFields
  · by_contra hdiffer
    have hchanged : field ∈ maintenanceFields.filter fun field =>
        observed.states field ≠ candidate.states field :=
      List.mem_filter.mpr ⟨hmem, decide_eq_true (Ne.symm hdiffer)⟩
    have hlookup := congrArg (fun items => List.lookup field items) heq
    simp only [planRow, changedStates, lookup_stateSubset _ hchanged] at hlookup
    exact hdiffer (Option.some.inj hlookup).symm
  · exact h.others field hmem

/-- The day of a changed row is one that the validation starts from. -/
theorem ResolvedPlan.mem_changedDates (h : ResolvedPlan lrt rt context gate fresh patches plan series)
    (hids : (fresh.map (·.recordId)).Nodup) (hdates : (patches.map (·.d)).Nodup) (hrow : row ∈ fresh)
    (hchanges : Changes plan row) : row.date ∈ changedDates plan.rows := by
  cases hfind : targetOf plan.rows row.recordId with
  | none => exact absurd (appliedRow_of_notTarget (targetOf_eq_none.mp hfind)) hchanges
  | some t =>
    obtain ⟨ht, hid⟩ := mem_of_targetOf hfind
    obtain ⟨before, after, observed, candidate, -, hresolved⟩ := h.target ht
    have hobserved : t.recordId = observed.recordId := by
      rw [hresolved.target]
      rfl
    obtain rfl := eq_of_key_eq hids hresolved.mem hrow (hobserved.symm.trans hid)
    have hne : candidate ≠ observed := by
      rw [← h.appliedRow_target hids hdates ht hresolved]
      exact hchanges
    refine List.mem_map.mpr ⟨t, List.mem_filter.mpr ⟨ht, decide_eq_true ?_⟩, ?_⟩
    · rw [hresolved.target]
      exact originalFields_ne_targetFields hresolved.maintains hne
    · rw [hresolved.target]
      rfl

end

/-! ## Which rows are canonical -/

theorem successorDate_eq {dates : List CivilDate} {d e : CivilDate} (hmem : e ∈ dates) (hlt : d < e)
    (hleast : ∀ e' ∈ dates, d < e' → e ≤ e') : successorDate dates d = some e := by
  unfold successorDate
  have hsorted : (dates.insertionSort (· ≤ ·)).Pairwise (· ≤ ·) := List.pairwise_insertionSort _ _
  cases hfind : (dates.insertionSort (· ≤ ·)).find? fun e => d < e with
  | none =>
    have hnone := List.find?_eq_none.mp hfind e ((List.mem_insertionSort _).mpr hmem)
    exact absurd (decide_eq_true hlt) hnone
  | some first =>
    obtain ⟨hfirst, front, back, hsplit, hfront⟩ := List.find?_eq_some_iff_append.mp hfind
    have hin : first ∈ dates := (List.mem_insertionSort (· ≤ ·)).mp (hsplit ▸ by simp)
    have hle : first ≤ e := by
      have he : e ∈ front ++ first :: back := hsplit ▸ (List.mem_insertionSort _).mpr hmem
      rcases List.mem_append.mp he with hf | hb
      · have hnot := hfront e hf
        simp only [hlt, decide_true] at hnot
        cases hnot
      · rw [hsplit] at hsorted
        rcases List.mem_cons.mp hb with rfl | hback
        · exact le_rfl
        · exact (List.pairwise_cons.mp (List.pairwise_append.mp hsorted).2.1).1 e hback
    rw [le_antisymm hle (hleast first hin (of_decide_eq_true hfirst))]

section
variable {lrt : Ledger.Runtime} {rt : Runtime} {context : RepairContext}
  {gate checkGate : CivilDate → Ledger.EffectService} {fresh : List FreshNavRow}
  {patches : List PatchRow} {plan : PatchPlan} {series : List NAVHistory} {row : FreshNavRow}

/-- A date without a violation has one row, and it is canonical. -/
theorem validateDate_none (hrow : row ∈ fresh) {navs : List NAVHistory}
    (h : validateDate lrt rt context checkGate fresh navs row.date = none)
    (hdates : (fresh.map (·.date)).Nodup) :
    ∃ candidate ds, recomputeDerivedRow lrt rt context (checkGate row.date) row navs
        (validationRunId context.account row.date) = .ok (candidate, ds) ∧
      ∀ field ∈ validationFields, candidate.states field = row.states field := by
  have hfilter : fresh.filter (fun other => other.date = row.date) = [row] :=
    filter_key_of_nodup hdates hrow
  unfold validateDate at h
  rw [hfilter] at h
  simp only at h
  cases hrecomputed : recomputeDerivedRow lrt rt context (checkGate row.date) row navs
      (validationRunId context.account row.date) with
  | error refusal =>
    rw [hrecomputed] at h
    cases h
  | ok result =>
    obtain ⟨candidate, ds⟩ := result
    rw [hrecomputed] at h
    simp only at h
    split at h
    next hnil =>
      refine ⟨candidate, ds, rfl, fun field hfield => ?_⟩
      by_contra hne
      have hmem : field ∈ validationFields.filter fun field =>
          row.states field ≠ candidate.states field :=
        List.mem_filter.mpr ⟨hfield, decide_eq_true (Ne.symm hne)⟩
      rw [hnil] at hmem
      cases hmem
    · cases h

/-- The first row after a changed row is validated. -/
theorem ResolvedPlan.canonical_follower
    (h : ResolvedPlan lrt rt context gate fresh patches plan series)
    (hids : (fresh.map (·.recordId)).Nodup) (hdates : (patches.map (·.d)).Nodup)
    (hvalid : canonicalValidationViolations lrt rt context checkGate fresh series plan.rows
      (validationDates series plan.rows .changed) = [])
    (hrow : row ∈ fresh) (htarget : ¬ IsTarget plan row) (hfollows : FollowsChange plan fresh row) :
    Canonical lrt rt context (patchedRows plan fresh) row := by
  obtain ⟨changed, hchanged, hchanges, hlt, hleast⟩ := hfollows
  have hseries : series.map (·.date) = fresh.map (·.date) := by
    rw [h.series]
    exact appliedNavs_dates plan.rows
  -- the row is on a date that is validated
  have hsuccessor : successorDate (series.map (·.date)) changed.date = some row.date := by
    rw [hseries]
    refine successorDate_eq (List.mem_map.mpr ⟨row, hrow, rfl⟩) hlt fun e he hlte => ?_
    obtain ⟨other, hother, rfl⟩ := List.mem_map.mp he
    exact hleast other hother hlte
  have hselected : row.date ∈ validationDates series plan.rows .changed :=
    List.mem_append_right _ (List.mem_filterMap.mpr
      ⟨changed.date, h.mem_changedDates hids hdates hchanged hchanges, hsuccessor⟩)
  have hnot : row.date ∉ plan.rows.map (·.date) := fun hmem => htarget (h.isTarget_of_date hrow hmem)
  have hnone : validateDate lrt rt context checkGate fresh series row.date = none := by
    unfold canonicalValidationViolations at hvalid
    refine List.filterMap_eq_nil_iff.mp hvalid row.date ?_
    rw [List.mem_dedup, List.mem_insertionSort, List.mem_filter]
    exact ⟨hselected, decide_eq_true hnot⟩
  obtain ⟨candidate, ds, hrecomputed, hsame⟩ := validateDate_none hrow hnone h.distinct
  rw [h.series, ← patchedRows_nav] at hrecomputed
  exact ⟨_, _, candidate, ds, hrecomputed, hsame⟩

/-- An initial value that is not zero: it is a total, or it is configured. -/
theorem initialValueOf_ne_zero {config : NavConfig} {earliest : Option NAVHistory}
    (h : ∀ nav, earliest = some nav → nav.totalValue ≠ 0) :
    initialValueOf config earliest ≠ some 0 := by
  have hconfigured : (if config.initialValue = 0 then none else some config.initialValue) ≠ some 0 := by
    split
    · exact fun h => by cases h
    next hne => exact fun h => hne (Option.some.inj h)
  unfold initialValueOf
  cases hcase : earliest with
  | none => exact hconfigured
  | some nav =>
    simp only
    cases nav.nav with
    | none => exact hconfigured
    | some value =>
      simp only
      split
      · intro hzero
        have htotal : nav.totalValue.toDecimal = 0 := Option.some.inj hzero
        refine h nav hcase ?_
        rw [Cents.toDecimal, div_eq_zero_iff] at htotal
        exact_mod_cast htotal.resolve_right (by norm_num)
      · exact hconfigured

/-- A row that is before every remaining target is the same for both stages of a plan. -/
theorem appliedRow_prefix {before rest : List PatchTarget} (hrest : ∀ t ∈ rest, t.recordId ≠ row.recordId) :
    appliedRow (before ++ rest) row = appliedRow before row := by
  unfold appliedRow
  rw [targetOf_append, targetOf_eq_none.mpr hrest, Option.or_none]

/-- A target is canonical, unless it is the earliest row and has a total of zero. -/
theorem ResolvedPlan.canonical_target (h : ResolvedPlan lrt rt context gate fresh patches plan series)
    (hids : (fresh.map (·.recordId)).Nodup) (hsorted : (patches.map (·.d)).Pairwise (· < ·))
    (hrow : row ∈ fresh) (htarget : IsTarget plan row)
    (hearliest : earliestRow (·.date) fresh = some row → row.nav.totalValue ≠ 0) :
    Canonical lrt rt context (patchedRows plan fresh) (appliedRow plan.rows row) := by
  have hdates : (patches.map (·.d)).Nodup := hsorted.imp ne_of_lt
  obtain ⟨t, ht, hid⟩ := htarget
  obtain ⟨before, after, observed, candidate, hsplit, hresolved⟩ := h.target ht
  have hobserved : t.recordId = observed.recordId ∧ t.date = observed.date := by
    rw [hresolved.target]
    exact ⟨rfl, rfl⟩
  obtain rfl := eq_of_key_eq hids hresolved.mem hrow (hobserved.1.symm.trans hid)
  obtain ⟨ds, hrecomputed⟩ := hresolved.recomputed
  obtain ⟨valuation, calculated, hmade⟩ := recomputeDerivedRow_ok hrecomputed
  obtain ⟨_, -, haccounts, -, hrecord⟩ := recordRepairedNav_ok hmade.recorded
  obtain ⟨p, _, hp, -⟩ := checkedRecord_ok hrecord
  -- a row before the day is not one of the targets that were still to come
  have hkept : ∀ other ∈ fresh, other.date < observed.date →
      (appliedRow plan.rows other).nav = (appliedRow before other).nav := by
    intro other hother hlt
    rw [hsplit, appliedRow_prefix]
    intro t' ht' hid'
    have hle : t.date ≤ t'.date := by
      have hplan : (plan.rows.map (·.date)).Pairwise (· < ·) := h.dates ▸ hsorted
      rw [hsplit, List.map_append, List.map_cons] at hplan
      rcases List.mem_cons.mp ht' with rfl | hafter
      · exact le_rfl
      · exact ((List.pairwise_cons.mp (List.pairwise_append.mp hplan).2.1).1 _
          (List.mem_map.mpr ⟨t', hafter, rfl⟩)).le
    obtain ⟨row', hrow', hrowId, hrowDate⟩ := h.target_row
      (hsplit ▸ List.mem_append_right _ ht' : t' ∈ plan.rows)
    obtain rfl := eq_of_key_eq hids hrow' hother (hrowId.symm.trans hid')
    rw [hobserved.2, hrowDate] at hle
    exact absurd hlt (not_lt.mpr hle)
  have hagree : AgreeOn context.config fresh observed.date (fun other => (appliedRow before other).nav)
      (fun other => (appliedRow plan.rows other).nav) :=
    { last := fun other ho => hkept other (latestBefore_lt ho).1 (latestBefore_lt ho).2
      monthEnd := fun other ho => hkept other (prevMonthEndRow_lt ho).1 (prevMonthEndRow_lt ho).2
      month := fun other ho => hkept other (mem_of_firstRow ho).1 (mem_of_firstRow ho).2
      yearEnd := fun other ho => hkept other (yearEndRow_lt le_rfl ho).1 (yearEndRow_lt le_rfl ho).2
      year := fun other ho => hkept other (mem_of_firstRow ho).1 (mem_of_firstRow ho).2
      first := fun hyear other ho => hkept other (yearEndRow_lt hyear ho).1 (yearEndRow_lt hyear ho).2 }
  have hpatched := h.appliedRow_target hids hdates ht hresolved
  have hinitial : getInitialValue context.config (appliedNavs fresh plan.rows) =
      getInitialValue context.config (appliedNavs fresh before) ∨
        getInitialValue context.config (appliedNavs fresh plan.rows) ≠ some 0 := by
    unfold appliedNavs
    rw [getInitialValue_map fun other => appliedRow_date, getInitialValue_map fun other => appliedRow_date]
    cases hfirst : earliestRow (·.date) fresh with
    | none => exact .inl rfl
    | some first =>
      obtain ⟨hmem, hle⟩ := earliestRow_le hfirst
      rcases (hle observed hrow).lt_or_eq with hlt | heq
      · rw [Option.map_some, Option.map_some, hkept first hmem hlt]
        exact .inl rfl
      · -- the target is the earliest row
        obtain rfl := eq_of_key_eq h.distinct hmem hrow heq
        refine .inr (initialValueOf_ne_zero fun nav hnav => ?_)
        obtain rfl := Option.some.inj hnav
        show (appliedRow plan.rows first).nav.totalValue ≠ 0
        rw [hpatched, hresolved.maintains.totalValue]
        exact hearliest hfirst
  have hbases : SameBases context.config observed.date ds (appliedNavs fresh before)
      (appliedNavs fresh plan.rows) :=
    sameBases_of_agree (fun other => appliedRow_date) (fun other => appliedRow_date) hagree hinitial
  have hfacts := sameFacts_candidateRow observed calculated ds
  rw [← hmade.row] at hfacts
  have hagain := recomputeDerivedRow_rebased hmade hfacts hbases (appliedNavs_accounts haccounts)
    (by rw [appliedNavs_dates]; exact h.distinct) hp
  rw [← patchedRows_nav, ← hpatched] at hagain
  refine ⟨_, _, _, ds, hagain, fun field hfield => ?_⟩
  have hne : field ≠ .details := of_decide_eq_true (List.mem_filter.mp hfield).2
  rw [hpatched, hfacts.candidateRow_states (recordNumber_rebased _) hne, ← hmade.row]

/-- Another row that was canonical stays so when its bases stay. -/
theorem ResolvedPlan.canonical_other (h : ResolvedPlan lrt rt context gate fresh patches plan series)
    (hcanonical : Canonical lrt rt context fresh row)
    (hkept : ∀ base, latestBefore (·.date) fresh row.date = some base ∨
      OtherBase context.config fresh row.date base → ¬ Changes plan base) :
    Canonical lrt rt context (patchedRows plan fresh) row := by
  obtain ⟨gate', runId, candidate, ds, hrecomputed, hsame⟩ := hcanonical
  obtain ⟨valuation, calculated, hmade⟩ := recomputeDerivedRow_ok hrecomputed
  obtain ⟨_, -, haccounts, -, hrecord⟩ := recordRepairedNav_ok hmade.recorded
  obtain ⟨p, _, hp, -⟩ := checkedRecord_ok hrecord
  have hstays : ∀ base, latestBefore (·.date) fresh row.date = some base ∨
      OtherBase context.config fresh row.date base → (appliedRow plan.rows base).nav = base.nav :=
    fun base hbase => congrArg FreshNavRow.nav (not_not.mp (hkept base hbase))
  have hagree : AgreeOn context.config fresh row.date (fun other => other.nav)
      (fun other => (appliedRow plan.rows other).nav) :=
    { last := fun other ho => hstays other (.inl ho)
      monthEnd := fun other ho => hstays other (.inr (.monthEnd ho))
      month := fun other ho => hstays other (.inr (.month ho))
      yearEnd := fun other ho => hstays other (.inr (.yearEnd ho))
      year := fun other ho => hstays other (.inr (.year ho))
      first := fun hyear other ho => hstays other (.inr (.first hyear ho)) }
  have hinitial : getInitialValue context.config (appliedNavs fresh plan.rows) =
      getInitialValue context.config (fresh.map (·.nav)) := by
    unfold appliedNavs
    rw [getInitialValue_map fun other => appliedRow_date,
      getInitialValue_map fun other : FreshNavRow => other.nav_date]
    exact congrArg _ (map_congr_of_eq fun first hfirst => hstays first (.inr (.earliest hfirst)))
  have hbases : SameBases context.config row.date ds (fresh.map (·.nav))
      (appliedNavs fresh plan.rows) :=
    sameBases_of_agree (fun other => other.nav_date) (fun other => appliedRow_date) hagree
      (.inl hinitial)
  have hfacts := SameFacts.refl row calculated
  have haccounts' : ∀ nav ∈ appliedNavs fresh plan.rows, nav.account = context.account := by
    have hnone : ∀ nav ∈ appliedNavs fresh [], nav.account = context.account := haccounts
    exact appliedNavs_accounts hnone
  have hagain := recomputeDerivedRow_rebased hmade hfacts hbases haccounts'
    (by rw [appliedNavs_dates]; exact h.distinct) hp
  rw [← patchedRows_nav] at hagain
  refine ⟨_, _, _, ds, hagain, fun field hfield => ?_⟩
  have hne : field ≠ .details := of_decide_eq_true (List.mem_filter.mp hfield).2
  rw [hfacts.candidateRow_states (recordNumber_rebased _) hne, ← hmade.row]
  exact hsame field hfield

/-- The rows of a file are given by date. -/
theorem loadPatchRows_ok {file : List PatchRow} (h : loadPatchRows file = .ok patches) :
    (patches.map (·.d)).Pairwise (· < ·) := by
  unfold loadPatchRows at h
  split at h
  · cases h
  · split at h
    · cases h
    next hdates =>
      cases h
      have hsorted : (file.insertionSort fun a b => a.d ≤ b.d).Pairwise fun a b => a.d ≤ b.d :=
        List.pairwise_insertionSort _ _
      have hnodup : ((file.insertionSort fun a b => a.d ≤ b.d).map (·.d)).Nodup :=
        ((List.perm_insertionSort _ file).map (·.d)).nodup_iff.mpr (not_not.mp hdates)
      rw [List.pairwise_map]
      exact (hsorted.and (List.pairwise_map.mp hnodup)).imp fun hab => lt_of_le_of_ne hab.1 hab.2

/-- The row before a day follows no other. -/
theorem followsChange_of_latestBefore {base : FreshNavRow}
    (hbase : latestBefore (·.date) fresh row.date = some base) (hchanges : Changes plan base) :
    FollowsChange plan fresh row := by
  obtain ⟨hmem, hlt⟩ := latestBefore_lt hbase
  refine ⟨base, hmem, hchanges, hlt, fun other hother hafter => ?_⟩
  by_contra hbefore
  have hnav : (NavIndex.build (fresh.map (·.nav))).findLatestBefore row.date = some base.nav := by
    rw [findLatestBefore_map fun other : FreshNavRow => other.nav_date, hbase]
    rfl
  have hle := (findLatestBefore_spec hnav).2.2 other.nav (List.mem_map.mpr ⟨other, hother, rfl⟩)
    (not_le.mp hbefore)
  exact absurd hafter (not_lt.mpr hle)

/-- Once a plan that was validated without violations is applied, these rows are canonical in the patched
series: every target, unless it is the earliest row with a total of zero; the first row after every
changed row; and every other row that was canonical, if the plan changes no base row of its month, of its
year and of the inception. -/
theorem validated_plan_leaves_canonical {file : List PatchRow}
    (hids : (fresh.map (·.recordId)).Nodup) (hload : loadPatchRows file = .ok patches)
    (hplan : resolvePatchTargets lrt rt context gate fresh patches = .ok (plan, series))
    (hvalid : canonicalValidationViolations lrt rt context checkGate fresh series plan.rows
      (validationDates series plan.rows .changed) = []) (hrow : row ∈ fresh)
    (hcovered : (IsTarget plan row ∧
        (earliestRow (·.date) fresh = some row → row.nav.totalValue ≠ 0)) ∨
      (¬ IsTarget plan row ∧ (FollowsChange plan fresh row ∨
        (Canonical lrt rt context fresh row ∧
          ∀ base, OtherBase context.config fresh row.date base → ¬ Changes plan base)))) :
    Canonical lrt rt context (patchedRows plan fresh) (appliedRow plan.rows row) := by
  have hsorted := loadPatchRows_ok hload
  have hdates : (patches.map (·.d)).Nodup := hsorted.imp ne_of_lt
  have hresolved := resolvePatchTargets_ok hids hdates hplan
  rcases hcovered with ⟨htarget, hearliest⟩ | ⟨htarget, hother⟩
  · exact hresolved.canonical_target hids hsorted hrow htarget hearliest
  · have hstays : appliedRow plan.rows row = row :=
      appliedRow_of_notTarget fun t ht hid => htarget ⟨t, ht, hid⟩
    rw [hstays]
    by_cases hfollows : FollowsChange plan fresh row
    · exact hresolved.canonical_follower hids hdates hvalid hrow htarget hfollows
    · obtain ⟨hcanonical, hkept⟩ := hother.resolve_left hfollows
      refine hresolved.canonical_other hcanonical fun base hbase => ?_
      rcases hbase with hlast | hbase
      · exact fun hchanges => hfollows (followsChange_of_latestBefore hlast hchanges)
      · exact hkept base hbase

end

/-! ## A month's end that is off by a millionth -/

/-- A number, if there is one. -/
def numberState (x : Option ℚ) : FieldState := x.elim .missing fun x => .value (.number x)

/-- The states of a row of an account with 100 shares that holds cash only. -/
def sharesStates (total nav : ℚ) (mtd ytd pnl mtdPnl : Option ℚ) : NavColumn → FieldState
  | .totalValue | .cashValue => .value (.number total)
  | .shares => .value (.number 100)
  | .nav => .value (.number nav)
  | .cashWeight => .value (.number 1)
  | .mtdNavChange => numberState mtd
  | .ytdNavChange => numberState ytd
  | .pnl => numberState pnl
  | .mtdPnl => numberState mtdPnl
  | .ytdPnl | .details | .updatedAt => .missing
  | _ => .value (.number 0)

/-- The last day of January 2025. -/
def januaryEnd : CivilDate := ⟨2025, 1, 31, by decide⟩

/-- The first row. -/
def firstRow : FreshNavRow := ⟨1, "a", ⟨2025, 1, 15, by decide⟩, sharesStates 100 1 none none none none⟩

/-- The end of January, whose NAV should be one. -/
def januaryRow : FreshNavRow :=
  ⟨2, "a", januaryEnd, sharesStates 100 (1000001 / 1000000) none none none none⟩

/-- The first row of February, at a NAV of 0.3. -/
def februaryRow : FreshNavRow :=
  ⟨3, "a", ⟨2025, 2, 3, by decide⟩,
    sharesStates 30 (3 / 10) (some (-7 / 10)) (some (-7 / 10)) none (some (-70))⟩

/-- The second row of February, at a NAV of 3. -/
def laterRow : FreshNavRow :=
  ⟨4, "a", ⟨2025, 2, 4, by decide⟩,
    sharesStates 300 3 (some (1999997 / 1000000)) (some 2) (some 270) (some 200)⟩

/-- The rows. -/
def sharesRows : List FreshNavRow := [firstRow, januaryRow, februaryRow, laterRow]

/-- The account. -/
def sharesContext : RepairContext := ⟨"a", ⟨2025, 0⟩, [], fun _ => none⟩

/-- The patch of the end of January. -/
def januaryPatch : PatchRow := ⟨januaryEnd, [], none⟩

/-- The plan of that patch. -/
def januaryPlan : Except PatchExit (PatchPlan × List NAVHistory) :=
  resolvePatchTargets Ledger.ledgerRuntime depositRuntime sharesContext (fun _ => none) sharesRows
    [januaryPatch]

/-- The numbers of a row are those of its recomputation. -/
def canonicalCheck (rows : List FreshNavRow) (row : FreshNavRow) : Bool :=
  match recomputeDerivedRow Ledger.ledgerRuntime depositRuntime sharesContext none row
      (rows.map (·.nav)) "check" with
  | .ok (candidate, _) => decide (∀ field ∈ validationFields, candidate.states field = row.states field)
  | .error _ => false

theorem canonicalCheck_iff {rows : List FreshNavRow} {row : FreshNavRow}
    (hmade : (recomputeDerivedRow Ledger.ledgerRuntime depositRuntime sharesContext none row
      (rows.map (·.nav)) "check").toOption.isSome = true) :
    Canonical Ledger.ledgerRuntime depositRuntime sharesContext rows row ↔
      canonicalCheck rows row = true := by
  cases hrecomputed : recomputeDerivedRow Ledger.ledgerRuntime depositRuntime sharesContext none row
      (rows.map (·.nav)) "check" with
  | error refusal =>
    rw [hrecomputed] at hmade
    cases hmade
  | ok result =>
    obtain ⟨candidate, ds⟩ := result
    unfold canonicalCheck
    rw [hrecomputed]
    simp only [decide_eq_true_eq]
    constructor
    · rintro ⟨gate, runId, candidate', ds', hother, hsame⟩ field hfield
      have hne : field ≠ .details := of_decide_eq_true (List.mem_filter.mp hfield).2
      rw [recomputed_states_unique hother hrecomputed hne]
      exact hsame field hfield
    · exact fun hsame => ⟨none, "check", candidate, ds, hrecomputed, hsame⟩

/-- What the plan of January is checked for: its target, its validation, and the second row of February
once it is applied. -/
def januaryChecks : Bool :=
  match januaryPlan with
  | .error _ => false
  | .ok (plan, series) =>
    decide (plan.rows.map (·.recordId) = [2]) &&
      (canonicalValidationViolations Ledger.ledgerRuntime depositRuntime sharesContext (fun _ => none)
        sharesRows series plan.rows (validationDates series plan.rows .changed)).isEmpty &&
      (recomputeDerivedRow Ledger.ledgerRuntime depositRuntime sharesContext none
        (appliedRow plan.rows laterRow) ((patchedRows plan sharesRows).map (·.nav))
        "check").toOption.isSome &&
      !canonicalCheck (patchedRows plan sharesRows) (appliedRow plan.rows laterRow)

/-- The rows but the target can be recomputed, and are canonical. -/
def othersCheck : Bool :=
  [firstRow, februaryRow, laterRow].all fun row =>
    (recomputeDerivedRow Ledger.ledgerRuntime depositRuntime sharesContext none row
      (sharesRows.map (·.nav)) "check").toOption.isSome && canonicalCheck sharesRows row

/-- The end of January is canonical once the plan is applied. -/
theorem january_is_left_canonical :
    ∃ plan series, januaryPlan = .ok (plan, series) ∧
      Canonical Ledger.ledgerRuntime depositRuntime sharesContext (patchedRows plan sharesRows)
        (appliedRow plan.rows januaryRow) := by
  have hchecks : januaryChecks = true := by decide +kernel
  unfold januaryChecks at hchecks
  cases hplan : januaryPlan with
  | error exit =>
    rw [hplan] at hchecks
    cases hchecks
  | ok planned =>
    obtain ⟨plan, series⟩ := planned
    rw [hplan] at hchecks
    simp only [Bool.and_eq_true, decide_eq_true_eq, List.isEmpty_iff] at hchecks
    obtain ⟨⟨⟨htargets, hvalid⟩, -⟩, -⟩ := hchecks
    have hmem : (2 : Nat) ∈ plan.rows.map (·.recordId) := by simp [htargets]
    obtain ⟨t, ht, hid⟩ := List.mem_map.mp hmem
    have hload : loadPatchRows [januaryPatch] = .ok [januaryPatch] := rfl
    have htotal : januaryRow.nav.totalValue ≠ 0 := by decide +kernel
    exact ⟨plan, series, rfl,
      validated_plan_leaves_canonical (by decide) hload hplan hvalid (by simp [sharesRows])
        (.inl ⟨⟨t, ht, hid⟩, fun _ => htotal⟩)⟩

/-- The plan corrects the NAV of the end of January, and the validation of the first row of February
finds nothing, since its monthly change is rounded to the same. The second row of February keeps a
monthly change against the old NAV. -/
theorem validated_plan_leaves_stale_row :
    ¬ ∀ (lrt : Ledger.Runtime) (rt : Runtime) (context : RepairContext)
      (gate checkGate : CivilDate → Ledger.EffectService) (fresh : List FreshNavRow)
      (file patches : List PatchRow) (plan : PatchPlan) (series : List NAVHistory),
      (fresh.map (·.recordId)).Nodup → loadPatchRows file = .ok patches →
      resolvePatchTargets lrt rt context gate fresh patches = .ok (plan, series) →
      canonicalValidationViolations lrt rt context checkGate fresh series plan.rows
        (validationDates series plan.rows .changed) = [] →
      (∀ row ∈ fresh, ¬ IsTarget plan row → Canonical lrt rt context fresh row) →
      ∀ row ∈ fresh, Canonical lrt rt context (patchedRows plan fresh) (appliedRow plan.rows row) := by
  intro hclaim
  have hchecks : januaryChecks = true := by decide +kernel
  have hothers : othersCheck = true := by decide +kernel
  unfold othersCheck at hothers
  rw [List.all_eq_true] at hothers
  unfold januaryChecks at hchecks
  cases hplan : januaryPlan with
  | error exit =>
    rw [hplan] at hchecks
    cases hchecks
  | ok planned =>
    obtain ⟨plan, series⟩ := planned
    rw [hplan] at hchecks
    simp only [Bool.and_eq_true, decide_eq_true_eq, List.isEmpty_iff, Bool.not_eq_true'] at hchecks
    obtain ⟨⟨⟨htargets, hvalid⟩, hmade⟩, hstale⟩ := hchecks
    have hcanonical : ∀ row ∈ sharesRows, ¬ IsTarget plan row →
        Canonical Ledger.ledgerRuntime depositRuntime sharesContext sharesRows row := by
      intro row hrow htarget
      have hne : row ≠ januaryRow := by
        rintro rfl
        have hmem : (2 : Nat) ∈ plan.rows.map (·.recordId) := by simp [htargets]
        obtain ⟨t, ht, hid⟩ := List.mem_map.mp hmem
        exact htarget ⟨t, ht, hid⟩
      have hother : row ∈ [firstRow, februaryRow, laterRow] := by
        simp only [sharesRows, List.mem_cons, List.not_mem_nil, or_false] at hrow ⊢
        exact hrow.imp_right fun h => h.resolve_left hne
      obtain ⟨hmade, hcheck⟩ := Bool.and_eq_true_iff.mp (hothers row hother)
      exact (canonicalCheck_iff hmade).mpr hcheck
    have hlater := hclaim Ledger.ledgerRuntime depositRuntime sharesContext (fun _ => none)
      (fun _ => none) sharesRows [januaryPatch] [januaryPatch] plan series (by decide) rfl hplan hvalid
      hcanonical laterRow (by simp [sharesRows])
    rw [canonicalCheck_iff hmade, hstale] at hlater
    cases hlater

end PortfolioManagement.NavRepair
