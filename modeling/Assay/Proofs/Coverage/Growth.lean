import Assay.Proofs.Run.Eager
import Mathlib.Data.List.Perm.Subperm
import Mathlib.Logic.Function.Basic

/-!
# What was reached stays reached

A cover set changes in one way only: ids of its catalog are added. `CoverSet.Gains` says which ones,
and each operation on cover sets and on programs has a lemma that names them, whether the operation
fails or not. A `Pool` has cover sets that stand alone and programs with theirs, and `Pool.performAll`
does one thing after the other with them, failures included. What holds in the end of any course of
things is put together from the gains of its steps: `Pool.performAll_covered`.
-/

set_option autoImplicit false

namespace Assay

/-! ## Keys -/

namespace Data

theorem sameKey_iff {a b : Data} {value : Int} (h : b.whole? = some value) :
    a.sameKey b = true ↔ a.whole? = some value := by
  unfold sameKey
  rw [h]
  cases a.whole? <;> simp

/-- Among whole numbers keys are compared by their values. -/
theorem isAmong_iff {key : Data} {keys : List Data}
    (h : ∀ other ∈ keys, other.whole?.isSome = true) :
    key.isAmong keys = true ↔ key.whole? ∈ keys.map whole? := by
  rw [isAmong, List.any_eq_true, List.mem_map]
  refine exists_congr fun other => and_congr_right fun hOther => ?_
  obtain ⟨value, hValue⟩ := Option.isSome_iff_exists.1 (h other hOther)
  rw [sameKey_iff hValue, hValue, eq_comm]

end Data

/-! ## Cover sets -/

namespace CoverSet

variable {id : Data} {s t u : CoverSet} {ids more : List Data}

/-- The targets are whole numbers, and what was reached are targets, each of them once. -/
structure Sound (s : CoverSet) : Prop where
  whole : ∀ id ∈ s.catalog.ids, id.whole?.isSome = true
  within : ∀ id ∈ s.covered, id.isAmong s.catalog.ids = true
  once : (s.covered.map Data.whole?).Nodup

namespace Sound

/-- What is among the targets is a whole number. -/
theorem isSome_of_isAmong (h : s.Sound) (hId : id.isAmong s.catalog.ids = true) :
    id.whole?.isSome = true := by
  obtain ⟨target, hTarget, hEq⟩ := List.mem_map.1 ((Data.isAmong_iff h.whole).1 hId)
  rw [← hEq]
  exact h.whole target hTarget

theorem covered_whole (h : s.Sound) : ∀ id ∈ s.covered, id.whole?.isSome = true :=
  fun id hId => h.isSome_of_isAmong (h.within id hId)

theorem length_le (h : s.Sound) : s.covered.length ≤ s.total := by
  have hSubset : s.covered.map Data.whole? ⊆ s.catalog.ids.map Data.whole? := by
    intro value hValue
    obtain ⟨id, hId, rfl⟩ := List.mem_map.1 hValue
    exact (Data.isAmong_iff h.whole).1 (h.within id hId)
  simpa [Catalog.ids, total] using (h.once.subperm hSubset).length_le

end Sound

/-- A set of which nothing is reached yet. -/
theorem sound_fresh {catalog : Catalog} (h : ∀ id ∈ catalog.ids, id.whole?.isSome = true) :
    Sound ⟨catalog, []⟩ :=
  ⟨h, by simp, by simp⟩

@[simp]
theorem catalog_insert (id : Data) : (s.insert id).catalog = s.catalog := by
  unfold insert
  split <;> rfl

theorem prefix_insert (id : Data) : s.covered <+: (s.insert id).covered := by
  unfold insert
  split
  · exact List.prefix_rfl
  · exact List.prefix_append _ _

theorem map_insert (h : s.Sound) (id : Data) :
    (s.insert id).covered.map Data.whole? =
      if id.whole? ∈ s.covered.map Data.whole? then s.covered.map Data.whole?
      else s.covered.map Data.whole? ++ [id.whole?] := by
  have hAmong : id.isAmong s.covered = true ↔ id.whole? ∈ s.covered.map Data.whole? :=
    Data.isAmong_iff h.covered_whole
  unfold insert
  by_cases hMem : id.whole? ∈ s.covered.map Data.whole?
  · rw [if_pos (hAmong.2 hMem), if_pos hMem]
  · rw [if_neg (mt hAmong.1 hMem), if_neg hMem, List.map_append]
    rfl

theorem Sound.insert (h : s.Sound) (hId : id.isAmong s.catalog.ids = true) :
    (s.insert id).Sound where
  whole := by simpa using h.whole
  within := by
    rw [catalog_insert]
    unfold CoverSet.insert
    split
    · exact h.within
    · exact List.forall_mem_append.2 ⟨h.within, by simpa using hId⟩
  once := by
    rw [map_insert h]
    split
    · exact h.once
    · rename_i hNew
      exact List.nodup_append.2 ⟨h.once, List.nodup_singleton _, by grind⟩

/-! ## Gains -/

/-- The set `t` is `s` with some of its targets added, one after the other. -/
structure Gains (s : CoverSet) (ids : List Data) (t : CoverSet) : Prop where
  among : ∀ id ∈ ids, id.isAmong s.catalog.ids = true
  eq_foldl : t = ids.foldl insert s

theorem catalog_foldl_insert (ids : List Data) (s : CoverSet) :
    (ids.foldl insert s).catalog = s.catalog := by
  induction ids generalizing s with
  | nil => rfl
  | cons id rest ih => rw [List.foldl_cons, ih, catalog_insert]

namespace Gains

theorem refl (s : CoverSet) : Gains s [] s := ⟨by simp, rfl⟩

theorem catalog_eq (h : Gains s ids t) : t.catalog = s.catalog := by
  rw [h.eq_foldl, catalog_foldl_insert]

theorem trans (hFirst : Gains s ids t) (hSecond : Gains t more u) : Gains s (ids ++ more) u where
  among := List.forall_mem_append.2 ⟨hFirst.among, hFirst.catalog_eq ▸ hSecond.among⟩
  eq_foldl := by rw [List.foldl_append, ← hFirst.eq_foldl, hSecond.eq_foldl]

/-- One id after the other. -/
theorem of_cons (h : Gains s (id :: ids) t) :
    id.isAmong s.catalog.ids = true ∧ Gains (s.insert id) ids t := by
  obtain ⟨hId, hIds⟩ := List.forall_mem_cons.1 h.among
  exact ⟨hId, ⟨by simpa using hIds, h.eq_foldl⟩⟩

theorem covered_prefix (h : Gains s ids t) : s.covered <+: t.covered := by
  induction ids generalizing s with
  | nil => exact h.eq_foldl ▸ List.prefix_rfl
  | cons id rest ih => exact (prefix_insert id).trans (ih h.of_cons.2)

theorem sound (h : Gains s ids t) (hSound : s.Sound) : t.Sound := by
  induction ids generalizing s with
  | nil => exact h.eq_foldl ▸ hSound
  | cons id rest ih =>
    obtain ⟨hId, hRest⟩ := h.of_cons
    exact ih hRest (hSound.insert hId)

/-- What is reached in the end was reached before or is gained. -/
theorem isAmong_iff (h : Gains s ids t) (hSound : s.Sound) (id : Data) :
    id.isAmong t.covered = true ↔ id.isAmong s.covered = true ∨ id.isAmong ids = true := by
  have hIds : ∀ other ∈ ids, other.whole?.isSome = true := fun other hOther =>
    hSound.isSome_of_isAmong (h.among other hOther)
  rw [Data.isAmong_iff (h.sound hSound).covered_whole, Data.isAmong_iff hSound.covered_whole,
    Data.isAmong_iff hIds]
  clear hIds
  induction ids generalizing s with
  | nil => simp [h.eq_foldl]
  | cons first rest ih =>
    obtain ⟨hFirst, hRest⟩ := h.of_cons
    refine (ih hRest (hSound.insert hFirst)).trans ?_
    rw [map_insert hSound, List.map_cons, List.mem_cons]
    split <;> grind

end Gains

/-- The id is a target. -/
def Takes (s : CoverSet) (id : Data) : Prop := id.isKey = true ∧ id.isAmong s.catalog.ids = true

theorem takes_congr (h : t.catalog = s.catalog) (id : Data) : t.Takes id ↔ s.Takes id := by
  rw [Takes, Takes, h]

theorem add_of_takes (h : s.Takes id) : s.add id = .ok (s.insert id) := by
  simp [add, h.1, h.2]

theorem takes_of_add (h : s.add id = .ok t) : s.Takes id := by
  unfold add at h
  split at h
  · cases h
  · split at h
    · rename_i hKey hId
      exact ⟨by simpa using hKey, hId⟩
    · cases h

theorem gains_add (h : s.add id = .ok t) : Gains s [id] t := by
  have hTakes := takes_of_add h
  rw [add_of_takes hTakes] at h
  cases h
  exact ⟨by simpa using hTakes.2, rfl⟩

theorem gains_merge {other : CoverSet} (hSound : s.Sound) (hOther : other.Sound)
    (h : s.merge other = .ok t) : Gains s other.covered t := by
  unfold merge at h
  split at h
  · rename_i hSame
    cases h
    refine ⟨fun id hId => ?_, rfl⟩
    simp only [Catalog.sameIds, Bool.and_eq_true, List.all_eq_true] at hSame
    -- the id is a target of the other set, and the targets are the same
    obtain ⟨target, hTarget, hEq⟩ :=
      List.mem_map.1 ((Data.isAmong_iff hOther.whole).1 (hOther.within id hId))
    have hHere := (Data.isAmong_iff hSound.whole).1 (hSame.1 target hTarget)
    exact (Data.isAmong_iff hSound.whole).2 (hEq ▸ hHere)
  · cases h

end CoverSet

/-! ## Harvests -/

namespace Covers

@[simp]
theorem get_set_self (covers : Covers) (space : Space) (s : CoverSet) :
    (covers.set space s).get space = s := by
  cases space <;> rfl

theorem get_set_of_ne (covers : Covers) {space other : Space} (h : other ≠ space) (s : CoverSet) :
    (covers.set space s).get other = covers.get other := by
  cases space <;> cases other <;> first | rfl | exact absurd rfl h

end Covers

namespace Coverage

/-- What an isolate told in an event, if it was asked for all ids. -/
def harvestAt (js : Behaviour) (before : Trace) : Event → Option Data
  | .evaluated isolate evaluation =>
    if evaluation.text = harvestSource then
      match js isolate (before.evaluationsIn isolate ++ [evaluation]) with
      | .ok answer => (Data.readJson answer).toOption
      | .error _ => none
    else none
  | _ => none

/-- What isolates told in the events that follow a trace. -/
def harvests (js : Behaviour) : Trace → Trace → List Data
  | _, [] => []
  | before, event :: rest =>
    (harvestAt js before event).toList ++ harvests js (before ++ [event]) rest

/-- The ids of a space in a harvest. -/
def idsIn (space : Space) (hits : Data) : List Data :=
  (((hits.field? space.name).getD (.list [])).elements?).getD []

/-- The ids of a space that isolates told between two points of time. -/
def told (js : Behaviour) (before after : Trace) (space : Space) : List Data :=
  (harvests js before (after.drop before.length)).flatMap (idsIn space)

theorem harvests_append (js : Behaviour) (before first second : Trace) :
    harvests js before (first ++ second) =
      harvests js before first ++ harvests js (before ++ first) second := by
  induction first generalizing before with
  | nil => simp [harvests]
  | cons event rest ih => simp [harvests, ih]

theorem told_append (js : Behaviour) (before events : Trace) (space : Space) :
    told js before (before ++ events) space =
      (harvests js before events).flatMap (idsIn space) := by
  rw [told, List.drop_left]

theorem told_self (js : Behaviour) (trace : Trace) (space : Space) :
    told js trace trace space = [] := by
  simp [told, harvests]

theorem told_trans (js : Behaviour) {before middle after : Trace} (hFirst : before <+: middle)
    (hSecond : middle <+: after) (space : Space) :
    told js before after space = told js before middle space ++ told js middle after space := by
  obtain ⟨first, rfl⟩ := hFirst
  obtain ⟨second, rfl⟩ := hSecond
  rw [told_append, told_append, List.append_assoc, told_append, harvests_append,
    List.flatMap_append]

variable {js : Behaviour}

theorem callSource_ne (arguments : List Data) : callSource arguments ≠ harvestSource := by
  intro hEq
  have hHeads : some (CodePoint.ofChar 'v') = some (CodePoint.ofChar 'J') :=
    congrArg List.head? hEq
  exact absurd hHeads (by decide)

/-- Asks an isolate for all ids reached so far. -/
def ask (js : Behaviour) (isolate : Nat) : Trial Data := do
  match ← Trial.lift (Bench.evaluate js isolate harvestSource none) with
  | .error fault => throw (.isolate fault)
  | .ok value => Trial.ofExcept id (Data.readJson value)

theorem run_ask (js : Behaviour) (isolate : Nat) (trace : Trace) :
    ∃ events, ((ask js isolate).run.run trace).2 = trace ++ events ∧
      ∀ hits, ((ask js isolate).run.run trace).1 = .ok hits →
        harvests js trace events = [hits] := by
  refine ⟨[.evaluated isolate ⟨harvestSource, none⟩], ?_⟩
  rw [ask, Trial.run_bind_ok (Trial.run_evaluate js isolate _ _ trace)]
  simp only [harvests, harvestAt, if_true, List.append_nil]
  cases js isolate (trace.evaluationsIn isolate ++ [⟨harvestSource, none⟩]) with
  | error fault => exact ⟨rfl, fun hits hHits => by cases hHits⟩
  | ok answer =>
    dsimp only
    cases Data.readJson answer with
    | error failure => exact ⟨rfl, fun hits hHits => by cases hHits⟩
    | ok found => exact ⟨rfl, fun hits hHits => by cases hHits; rfl⟩

/-- A program is called and then asked for all ids, and what is told is the result. -/
theorem run_invoke (js : Behaviour) (config : Config) (isolate : Nat) (arguments : Data)
    (trace : Trace) :
    ∃ events, ((invoke js config isolate arguments).run.run trace).2 = trace ++ events ∧
      ∀ hits, ((invoke js config isolate arguments).run.run trace).1 = .ok hits →
        harvests js trace events = [hits] := by
  unfold invoke
  cases arguments.elements? with
  | none => exact ⟨[], (List.append_nil trace).symm, fun hits hHits => by cases hHits⟩
  | some values =>
    -- nothing is harvested before the isolate is asked
    have hAsk {start middle : Trace} (hStart : start = trace ++ middle)
        (hMiddle : harvests js trace middle = []) :
        ∃ events, ((ask js isolate).run.run start).2 = trace ++ events ∧
          ∀ hits, ((ask js isolate).run.run start).1 = .ok hits →
            harvests js trace events = [hits] := by
      subst hStart
      obtain ⟨events, hEvents, hHits⟩ := run_ask js isolate (trace ++ middle)
      refine ⟨middle ++ events, by rw [hEvents, List.append_assoc], fun hits hOk => ?_⟩
      rw [harvests_append, hMiddle, List.nil_append, hHits hits hOk]
    rw [Trial.run_bind_ok (Trial.run_evaluate js isolate _ _ trace)]
    dsimp only
    split
    · refine hAsk (List.append_assoc _ _ _) ?_
      simp [harvests, harvestAt, callSource_ne]
    · refine hAsk rfl ?_
      simp [harvests, harvestAt, callSource_ne]

/-! ## The start -/

theorem sound_catalogOf (space : Space) (ranges : List (Space × Range)) :
    CoverSet.Sound ⟨catalogOf space ranges, []⟩ := by
  refine CoverSet.sound_fresh fun id hId => ?_
  simp only [Catalog.ids, catalogOf, List.map_map, List.mem_map] at hId
  obtain ⟨entry, -, rfl⟩ := hId
  rfl

/-- The cover sets that a program starts with are sound. -/
theorem sound_start (js : Behaviour) {config : Config} {script : Script} {trace : Trace}
    {coverage : Coverage} (h : ((start js config script).run.run trace).1 = .ok coverage)
    (space : Space) : (coverage.covers.get space).Sound := by
  unfold start at h
  cases hPrepare : prepare config script with
  | error failure =>
    rw [hPrepare] at h
    cases h
  | ok prepared =>
    rw [hPrepare] at h
    obtain rfl := Except.ok.inj h
    obtain ⟨program, -, hRanges⟩ := Outcome.bind_eq_ok.1 hPrepare
    obtain ⟨ranges, -, hWrite⟩ := Outcome.bind_eq_ok.1 hRanges
    obtain ⟨modified, -, hPrepared⟩ := Outcome.bind_eq_ok.1 hWrite
    cases hPrepared
    cases space <;> exact sound_catalogOf _ ranges

/-! ## Runs -/

open CoverSet (Gains)

theorem gains_addAll (s : CoverSet) (values : List Data) :
    ∃ ids, Gains s ids (addAll s values).1 ∧ ((addAll s values).2 = .ok () → ids = values) := by
  fun_induction addAll s values with
  | case1 s => exact ⟨[], .refl s, fun _ => rfl⟩
  | case2 s value rest t hAdd ih =>
    obtain ⟨ids, hGains, hAll⟩ := ih
    exact ⟨value :: ids, (CoverSet.gains_add hAdd).trans hGains, fun hOk => by rw [hAll hOk]⟩
  | case3 s value rest failure hAdd => exact ⟨[], .refl s, fun hOk => by cases hOk⟩

theorem addAll_eq_ok_iff (s : CoverSet) (values : List Data) :
    (addAll s values).2 = .ok () ↔ ∀ value ∈ values, s.Takes value := by
  fun_induction addAll s values with
  | case1 s => simp
  | case2 s value rest t hAdd ih =>
    have hCatalog : t.catalog = s.catalog := (CoverSet.gains_add hAdd).catalog_eq
    simp [ih, CoverSet.takes_congr hCatalog, CoverSet.takes_of_add hAdd]
  | case3 s value rest failure hAdd =>
    have hNot : ¬ s.Takes value := fun hTakes => by
      rw [CoverSet.add_of_takes hTakes] at hAdd
      cases hAdd
    simp [hNot]

theorem gains_set {covers : Covers} {first : Space} {ids : List Data} {target : CoverSet}
    (h : Gains (covers.get first) ids target) (space : Space) :
    Gains (covers.get space) (if space = first then ids else [])
      ((covers.set first target).get space) := by
  by_cases hSpace : space = first
  · subst hSpace
    simpa using h
  · rw [if_neg hSpace, Covers.get_set_of_ne covers hSpace]
    exact .refl _

/-- Each space gains what was harvested for it, or a beginning of that. -/
theorem gains_absorb (hits : Data) {spaces : List Space} (hSpaces : spaces.Nodup) (covers : Covers)
    (space : Space) :
    ∃ ids, Gains (covers.get space) ids ((absorb hits spaces covers).1.get space) ∧
      ((absorb hits spaces covers).2 = .ok () →
        ids = if space ∈ spaces then idsIn space hits else []) := by
  fun_induction absorb hits spaces covers with
  | case1 covers => exact ⟨[], .refl _, fun _ => rfl⟩
  | case2 first rest covers fields hObject hNone =>
    subst hObject
    rw [hNone]
    exact ⟨[], .refl _, fun hOk => by cases hOk⟩
  | case3 first rest covers fields hObject values hValues target hAdd ih =>
    subst hObject
    obtain ⟨hFirst, hRest⟩ := List.nodup_cons.1 hSpaces
    obtain ⟨ids, hGains, hAll⟩ := gains_addAll (covers.get first) values
    rw [hAdd] at hGains hAll
    obtain rfl := hAll rfl
    obtain ⟨more, hMore, hOthers⟩ := ih hRest
    rw [hValues]
    dsimp only
    rw [hAdd]
    refine ⟨_, (gains_set hGains space).trans hMore, fun hOk => ?_⟩
    rw [hOthers hOk]
    by_cases hSpace : space = first
    · subst hSpace
      simp [hFirst, idsIn, hValues]
    · simp [hSpace]
  | case4 first rest covers fields hObject values hValues target failure hAdd =>
    subst hObject
    obtain ⟨ids, hGains, -⟩ := gains_addAll (covers.get first) values
    rw [hAdd] at hGains
    rw [hValues]
    dsimp only
    rw [hAdd]
    exact ⟨_, gains_set hGains space, fun hOk => by cases hOk⟩
  | case5 first rest covers hObject => exact ⟨[], .refl _, fun hOk => by cases hOk⟩

/-- A harvest has ids for a space, and they are targets. -/
def Fits (covers : Covers) (hits : Data) (space : Space) : Prop :=
  ∃ fields values, hits = .object fields ∧
    ((hits.field? space.name).getD (.list [])).elements? = some values ∧
    ∀ value ∈ values, (covers.get space).Takes value

theorem fits_congr {covers others : Covers}
    (h : ∀ space, (others.get space).catalog = (covers.get space).catalog) (hits : Data)
    (space : Space) : Fits others hits space ↔ Fits covers hits space := by
  simp only [Fits, CoverSet.takes_congr (h space)]

theorem absorb_eq_ok_iff (hits : Data) (spaces : List Space) (covers : Covers) :
    (absorb hits spaces covers).2 = .ok () ↔ ∀ space ∈ spaces, Fits covers hits space := by
  fun_induction absorb hits spaces covers with
  | case1 covers => simp
  | case2 first rest covers fields hObject hNone =>
    subst hObject
    simp [Fits, hNone]
  | case3 first rest covers fields hObject values hValues target hAdd ih =>
    subst hObject
    have hTakes : ∀ value ∈ values, (covers.get first).Takes value :=
      (addAll_eq_ok_iff _ _).1 (by rw [hAdd])
    obtain ⟨ids, hGains, -⟩ := gains_addAll (covers.get first) values
    rw [hAdd] at hGains
    have hFirst : Fits covers (.object fields) first := ⟨fields, values, rfl, hValues, hTakes⟩
    rw [hValues]
    dsimp only
    rw [hAdd]
    simp [ih, fits_congr (fun space => (gains_set hGains space).catalog_eq), hFirst]
  | case4 first rest covers fields hObject values hValues target failure hAdd =>
    subst hObject
    have hNot : ¬ ∀ value ∈ values, (covers.get first).Takes value :=
      fun hTakes => by simpa [hAdd] using (addAll_eq_ok_iff _ _).2 hTakes
    rw [hValues]
    dsimp only
    rw [hAdd]
    simp [Fits, hValues, hNot]
  | case5 first rest covers hObject =>
    have hNot : ¬ Fits covers hits first := fun ⟨fields, _, hFields, _⟩ => hObject fields hFields
    simp [hNot]

theorem gains_absorb_all (hits : Data) (covers : Covers) (space : Space) :
    ∃ ids, Gains (covers.get space) ids ((absorb hits Space.all covers).1.get space) ∧
      ((absorb hits Space.all covers).2 = .ok () → ids = idsIn space hits) := by
  have hSpaces : Space.all.Nodup := by decide
  have hSpace : space ∈ Space.all := by cases space <;> decide
  simpa [hSpace] using gains_absorb hits hSpaces covers space

/-- An activity with a program adds targets to its cover sets. If it does not fail, then these are
the ids that isolates told meanwhile. -/
structure Advances (js : Behaviour) (coverage : Coverage) (trace : Trace)
    (outcome : (Coverage × Except Failure Unit) × Trace) : Prop where
  follows : trace <+: outcome.2
  gains : ∀ space, ∃ ids, Gains (coverage.covers.get space) ids (outcome.1.1.covers.get space) ∧
    (outcome.1.2 = .ok () → ids = told js trace outcome.2 space)

namespace Advances

variable {coverage middle next : Coverage} {trace between after : Trace}
  {result : Except Failure Unit}

theorem refl (js : Behaviour) (coverage : Coverage) (trace : Trace) (result : Except Failure Unit) :
    Advances js coverage trace ((coverage, result), trace) where
  follows := List.prefix_rfl
  gains space := ⟨[], .refl _, fun _ => (told_self js trace space).symm⟩

/-- Afterwards nothing more is told, and the cover sets stay as they are. -/
theorem silently {events : Trace} (h : Advances js coverage trace ((middle, result), between))
    (hEvents : harvests js between events = []) (hCovers : next.covers = middle.covers) :
    Advances js coverage trace ((next, result), between ++ events) where
  follows := h.follows.trans (List.prefix_append _ _)
  gains space := by
    obtain ⟨ids, hGains, hTold⟩ := h.gains space
    refine ⟨ids, hCovers ▸ hGains, fun hOk => ?_⟩
    rw [hTold hOk, told_trans js h.follows (List.prefix_append _ _), told_append, hEvents]
    simp

/-- The activity fails before anything is added. -/
theorem of_failure {failure : Failure} (h : trace <+: after) :
    Advances js coverage trace ((coverage, .error failure), after) where
  follows := h
  gains _ := ⟨[], .refl _, fun hOk => by cases hOk⟩

theorem trans {outcome : (Coverage × Except Failure Unit) × Trace}
    (hFirst : Advances js coverage trace ((middle, .ok ()), between))
    (hSecond : Advances js middle between outcome) : Advances js coverage trace outcome where
  follows := hFirst.follows.trans hSecond.follows
  gains space := by
    obtain ⟨ids, hGains, hTold⟩ := hFirst.gains space
    obtain ⟨more, hMore, hOthers⟩ := hSecond.gains space
    refine ⟨ids ++ more, hGains.trans hMore, fun hOk => ?_⟩
    rw [hTold rfl, hOthers hOk, told_trans js hFirst.follows hSecond.follows]

/-- Closing tells nothing. -/
theorem close (h : Advances js coverage trace ((middle, result), between)) :
    Advances js coverage trace
      (((middle.close.run between).1, result), (middle.close.run between).2) := by
  unfold Coverage.close
  cases middle.isolate with
  | some isolate => exact h.silently rfl rfl
  | none => exact h

end Advances

theorem advances_runSingle (js : Behaviour) (coverage : Coverage) (arguments : Data)
    (trace : Trace) :
    Advances js coverage trace ((runSingle js coverage arguments).run trace) := by
  unfold runSingle
  cases coverage.isolate with
  | none => exact (Advances.refl js coverage trace (.ok ())).silently rfl rfl
  | some isolate =>
    obtain ⟨events, hEvents, hHarvest⟩ := run_invoke js coverage.config isolate arguments trace
    dsimp only
    rw [StateT.run_bind]
    generalize (invoke js coverage.config isolate arguments).run.run trace = outcome at *
    obtain ⟨result, after⟩ := outcome
    subst hEvents
    cases result with
    | error failure => exact .of_failure (List.prefix_append _ _)
    | ok hits =>
      refine ⟨List.prefix_append _ _, fun space => ?_⟩
      obtain ⟨ids, hGains, hAll⟩ := gains_absorb_all hits coverage.covers space
      have hTold : told js trace (trace ++ events) space = idsIn space hits := by
        rw [told_append, hHarvest hits rfl]
        simp
      exact ⟨ids, hGains, fun hOk => (hAll hOk).trans hTold.symm⟩

theorem advances_runEach (js : Behaviour) (coverage : Coverage) (inputs : List Data)
    (trace : Trace) :
    Advances js coverage trace ((runEach js coverage inputs).run trace) := by
  induction inputs generalizing coverage trace with
  | nil => exact .refl js coverage trace (.ok ())
  | cons arguments rest ih =>
    have hFirst := advances_runSingle js coverage arguments trace
    unfold runEach
    rw [StateT.run_bind]
    generalize (runSingle js coverage arguments).run trace = outcome at *
    obtain ⟨⟨middle, result⟩, between⟩ := outcome
    cases result with
    | ok done => exact hFirst.trans (ih middle between)
    | error failure => exact hFirst

theorem advances_run (js : Behaviour) (coverage : Coverage) (inputs : Data) (trace : Trace) :
    Advances js coverage trace ((run js coverage inputs).run trace) := by
  unfold run
  cases inputs.elements? with
  | some inputs => exact advances_runEach js coverage inputs trace
  | none => exact .of_failure List.prefix_rfl

theorem advances_runAndClose (js : Behaviour) (coverage : Coverage) (inputs : Data)
    (trace : Trace) :
    Advances js coverage trace ((runAndClose js coverage inputs).run trace) :=
  (advances_run js coverage inputs trace).close

/-- Something done with a program. -/
inductive Activity where
  /-- A run with some arguments. -/
  | runSingle (arguments : Data)
  /-- A run for each of the inputs. -/
  | run (inputs : Data)
  /-- A run for each of the inputs, after which the isolate is closed. -/
  | runAndClose (inputs : Data)
  /-- The isolate is closed. -/
  | close

/-- Does it. -/
def Activity.perform (js : Behaviour) (coverage : Coverage) :
    Activity → Bench (Coverage × Except Failure Unit)
  | .runSingle arguments => Coverage.runSingle js coverage arguments
  | .run inputs => Coverage.run js coverage inputs
  | .runAndClose inputs => Coverage.runAndClose js coverage inputs
  | .close => return (← Coverage.close coverage, .ok ())

theorem advances_perform (js : Behaviour) (coverage : Coverage) (activity : Activity)
    (trace : Trace) : Advances js coverage trace ((activity.perform js coverage).run trace) := by
  cases activity with
  | runSingle arguments => exact advances_runSingle js coverage arguments trace
  | run inputs => exact advances_run js coverage inputs trace
  | runAndClose inputs => exact advances_runAndClose js coverage inputs trace
  | close => exact (Advances.refl js coverage trace (.ok ())).close

end Coverage

/-! ## Many steps -/

/-- Where a cover set is kept. -/
inductive Holder where
  /-- It stands alone. -/
  | alone (number : Nat)
  /-- It belongs to a program. -/
  | space (program : Nat) (space : Space)
  deriving DecidableEq

/-- Cover sets that stand alone, and programs with theirs. -/
structure Pool where
  /-- The sets that stand alone. -/
  sets : Nat → CoverSet
  /-- The programs. -/
  programs : Nat → Coverage

namespace Pool

/-- The cover set that is kept somewhere. -/
def get (pool : Pool) : Holder → CoverSet
  | .alone number => pool.sets number
  | .space program space => (pool.programs program).covers.get space

/-- Puts another program in place. -/
def setProgram (pool : Pool) (program : Nat) (coverage : Coverage) : Pool :=
  { pool with programs := Function.update pool.programs program coverage }

/-- Puts another cover set in place. -/
def set (pool : Pool) : Holder → CoverSet → Pool
  | .alone number, s => { pool with sets := Function.update pool.sets number s }
  | .space program space, s =>
    pool.setProgram program
      { pool.programs program with covers := (pool.programs program).covers.set space s }

/-- Each of the cover sets is sound. -/
def Sound (pool : Pool) : Prop := ∀ holder, (pool.get holder).Sound

theorem get_setProgram (pool : Pool) (program : Nat) (coverage : Coverage) (number : Nat)
    (space : Space) :
    (pool.setProgram program coverage).get (.space number space) =
      if number = program then coverage.covers.get space else pool.get (.space number space) := by
  by_cases h : number = program
  · subst h
    simp [get, setProgram]
  · simp [get, setProgram, h]

theorem get_set (pool : Pool) (holder other : Holder) (s : CoverSet) :
    (pool.set holder s).get other = if other = holder then s else pool.get other := by
  cases holder with
  | alone number =>
    cases other with
    | alone wanted => by_cases h : wanted = number <;> simp [get, set, Function.update, h]
    | space wanted wantedSpace => simp [get, set]
  | space program space =>
    cases other with
    | alone wanted => simp [get, set, setProgram]
    | space wanted wantedSpace =>
      rw [set, get_setProgram]
      by_cases h : wanted = program
      · subst h
        by_cases hSpace : wantedSpace = space
        · simp [hSpace]
        · simp [hSpace, Covers.get_set_of_ne, get]
      · simp [h]

end Pool

/-- Something done with the cover sets and the programs of a pool. -/
inductive Step where
  /-- An id is added to a set. -/
  | add (holder : Holder) (id : Data)
  /-- A set takes over what another one has reached. -/
  | merge (holder other : Holder)
  /-- What was harvested from a program is added to its sets. -/
  | absorb (program : Nat) (hits : Data)
  /-- Something is done with a program. -/
  | act (program : Nat) (activity : Coverage.Activity)

namespace Step

variable {step : Step}

/-- Puts another cover set in place, unless there is none because of a failure. -/
def update (pool : Pool) (holder : Holder) : Except Failure CoverSet → Pool × Except Failure Unit
  | .ok s => (pool.set holder s, .ok ())
  | .error failure => (pool, .error failure)

/-- Does one step. -/
def perform (js : Behaviour) (pool : Pool) : Step → Bench (Pool × Except Failure Unit)
  | add holder id => return update pool holder ((pool.get holder).add id)
  | merge holder other => return update pool holder ((pool.get holder).merge (pool.get other))
  | absorb program hits =>
    let coverage := pool.programs program
    let (covers, result) := Coverage.absorb hits Space.all coverage.covers
    return (pool.setProgram program { coverage with covers := covers }, result)
  | act program activity => do
    let (coverage, result) ← activity.perform js (pool.programs program)
    return (pool.setProgram program coverage, result)

/-- The ids for a cover set, if they are given for each space of a program. -/
def forProgram (program : Nat) (ids : Space → List Data) : Holder → List Data
  | .alone _ => []
  | .space number space => if number = program then ids space else []

/-- The ids that a step brings for a cover set: the id that is added, those the other set holds, and
those that are told of a program. -/
def brings (js : Behaviour) (pool : Pool) (trace : Trace) (wanted : Holder) : Step → List Data
  | add holder id => if wanted = holder then [id] else []
  | merge holder other => if wanted = holder then (pool.get other).covered else []
  | absorb program hits => forProgram program (Coverage.idsIn · hits) wanted
  | act program activity =>
    let after := ((activity.perform js (pool.programs program)).run trace).2
    forProgram program (Coverage.told js trace after) wanted

/-- Whether a step is with cover sets only. -/
def isUpdate : Step → Bool
  | add _ _ | merge _ _ => true
  | absorb _ _ | act _ _ => false

/-- Whether a step adds ids that are given with it. -/
def isGiven : Step → Bool
  | add _ _ | absorb _ _ => true
  | merge _ _ | act _ _ => false

open CoverSet (Gains)

variable {pool : Pool} {holder : Holder}

theorem gains_update {result : Except Failure CoverSet} {ids : List Data}
    (h : ∀ s, result = .ok s → Gains (pool.get holder) ids s) (wanted : Holder) :
    ∃ more, Gains (pool.get wanted) more ((update pool holder result).1.get wanted) ∧
      ((update pool holder result).2 = .ok () → more = if wanted = holder then ids else []) := by
  cases result with
  | error failure => exact ⟨[], .refl _, fun hOk => by cases hOk⟩
  | ok s =>
    refine ⟨_, ?_, fun _ => rfl⟩
    rw [update, Pool.get_set]
    by_cases hWanted : wanted = holder
    · subst hWanted
      simpa using h s rfl
    · simpa [hWanted] using Gains.refl (pool.get wanted)

theorem gains_setProgram {program : Nat} {next : Coverage} {ids : Space → List Data}
    {result : Except Failure Unit}
    (h : ∀ space, ∃ more, Gains (pool.get (.space program space)) more (next.covers.get space) ∧
      (result = .ok () → more = ids space)) (wanted : Holder) :
    ∃ more, Gains (pool.get wanted) more ((pool.setProgram program next).get wanted) ∧
      (result = .ok () → more = forProgram program ids wanted) := by
  cases wanted with
  | alone number => exact ⟨[], .refl _, fun _ => rfl⟩
  | space number space =>
    rw [Pool.get_setProgram, forProgram]
    by_cases hNumber : number = program
    · subst hNumber
      simpa using h space
    · rw [if_neg hNumber, if_neg hNumber]
      exact ⟨[], .refl _, fun _ => rfl⟩

/-- In a step each cover set gains the ids that the step brings for it, or, if the step fails, some
targets. -/
theorem gains_perform (js : Behaviour) (hSound : pool.Sound) (step : Step) (trace : Trace)
    (wanted : Holder) :
    ∃ ids, Gains (pool.get wanted) ids (((step.perform js pool).run trace).1.1.get wanted) ∧
      (((step.perform js pool).run trace).1.2 = .ok () →
        ids = step.brings js pool trace wanted) := by
  cases step with
  | add holder id => exact gains_update (fun s hAdd => CoverSet.gains_add hAdd) wanted
  | merge holder other =>
    exact gains_update
      (fun s hMerge => CoverSet.gains_merge (hSound holder) (hSound other) hMerge) wanted
  | absorb program hits =>
    refine gains_setProgram (fun space => ?_) wanted
    exact Coverage.gains_absorb_all hits (pool.programs program).covers space
  | act program activity =>
    have hAct := Coverage.advances_perform js (pool.programs program) activity trace
    exact gains_setProgram hAct.gains wanted

theorem sound_perform (js : Behaviour) (hSound : pool.Sound) (step : Step) (trace : Trace) :
    ((step.perform js pool).run trace).1.1.Sound := by
  intro wanted
  obtain ⟨ids, hGains, -⟩ := gains_perform js hSound step trace wanted
  exact hGains.sound (hSound wanted)

/-- What fails with cover sets only changes nothing. -/
theorem perform_of_isUpdate (js : Behaviour) (h : step.isUpdate = true) (trace : Trace)
    (hFailed : ((step.perform js pool).run trace).1.2 ≠ .ok ()) :
    ((step.perform js pool).run trace).1.1 = pool := by
  have hUpdate {holder : Holder} {result : Except Failure CoverSet}
      (hResult : (update pool holder result).2 ≠ .ok ()) : (update pool holder result).1 = pool := by
    cases result with
    | ok s => exact absurd rfl hResult
    | error failure => rfl
  cases step with
  | add holder id => exact hUpdate hFailed
  | merge holder other => exact hUpdate hFailed
  | absorb program hits => cases h
  | act program activity => cases h

/-- The given ids are targets. -/
def Fits (pool : Pool) : Step → Prop
  | add holder id => (pool.get holder).Takes id
  | absorb program hits => ∀ space, Coverage.Fits (pool.programs program).covers hits space
  | merge _ _ | act _ _ => True

theorem fits_congr {other : Pool}
    (h : ∀ holder, (other.get holder).catalog = (pool.get holder).catalog) (step : Step) :
    step.Fits other ↔ step.Fits pool := by
  cases step with
  | add holder id => exact CoverSet.takes_congr (h holder) id
  | absorb program hits =>
    exact forall_congr' (Coverage.fits_congr (fun space => h (.space program space)) hits)
  | merge holder other => exact Iff.rfl
  | act program activity => exact Iff.rfl

theorem perform_eq_ok_iff (js : Behaviour) (h : step.isGiven = true) (trace : Trace) :
    ((step.perform js pool).run trace).1.2 = .ok () ↔ step.Fits pool := by
  cases step with
  | add holder id =>
    show (update pool holder ((pool.get holder).add id)).2 = .ok () ↔ (pool.get holder).Takes id
    cases hAdd : (pool.get holder).add id with
    | ok s => exact ⟨fun _ => CoverSet.takes_of_add hAdd, fun _ => rfl⟩
    | error failure =>
      refine ⟨fun hOk => (by cases hOk), fun hTakes => ?_⟩
      rw [CoverSet.add_of_takes hTakes] at hAdd
      cases hAdd
  | absorb program hits =>
    have hSpaces : ∀ space : Space, space ∈ Space.all := fun space => by cases space <;> decide
    refine (Coverage.absorb_eq_ok_iff hits Space.all _).trans ?_
    exact ⟨fun hAll space => hAll space (hSpaces space), fun hAll space _ => hAll space⟩
  | merge holder other => cases h
  | act program activity => cases h

/-- What is given with a step does not depend on the pool. -/
theorem brings_of_isGiven (h : step.isGiven = true) (js : Behaviour) (pool other : Pool)
    (trace otherTrace : Trace) (wanted : Holder) :
    step.brings js pool trace wanted = step.brings js other otherTrace wanted := by
  cases step with
  | add holder id => rfl
  | absorb program hits => rfl
  | merge holder other => cases h
  | act program activity => cases h

end Step

namespace Pool

variable {pool : Pool} {steps : List Step}

/-- Does one step after the other, whether they fail or not, and gives what came of each. -/
def performAll (js : Behaviour) : Pool → List Step → Bench (Pool × List (Except Failure Unit))
  | pool, [] => return (pool, [])
  | pool, step :: rest => do
    let (pool, result) ← step.perform js pool
    let (pool, results) ← performAll js pool rest
    return (pool, result :: results)

/-- The ids that steps bring for a cover set. -/
def brought (js : Behaviour) (wanted : Holder) : Pool → Trace → List Step → List Data
  | _, _, [] => []
  | pool, trace, step :: rest =>
    let outcome := (step.perform js pool).run trace
    step.brings js pool trace wanted ++ brought js wanted outcome.1.1 outcome.2 rest

/-- No step failed. -/
def Unfailing (results : List (Except Failure Unit)) : Prop := ∀ result ∈ results, result = .ok ()

open CoverSet (Gains)

theorem run_performAll_cons (js : Behaviour) (pool : Pool) (step : Step) (rest : List Step)
    (trace : Trace) :
    (performAll js pool (step :: rest)).run trace =
      let first := (step.perform js pool).run trace
      let others := (performAll js first.1.1 rest).run first.2
      ((others.1.1, first.1.2 :: others.1.2), others.2) := rfl

theorem gains_performAll (js : Behaviour) (hSound : pool.Sound) (steps : List Step)
    (trace : Trace) (wanted : Holder) :
    ∃ ids, Gains (pool.get wanted) ids (((performAll js pool steps).run trace).1.1.get wanted) ∧
      (Unfailing ((performAll js pool steps).run trace).1.2 →
        ids = brought js wanted pool trace steps) := by
  induction steps generalizing pool trace with
  | nil => exact ⟨[], .refl _, fun _ => rfl⟩
  | cons step rest ih =>
    obtain ⟨ids, hGains, hBrings⟩ := Step.gains_perform js hSound step trace wanted
    obtain ⟨more, hMore, hBrought⟩ :=
      ih (Step.sound_perform js hSound step trace) ((step.perform js pool).run trace).2
    rw [run_performAll_cons]
    refine ⟨ids ++ more, hGains.trans hMore, fun hAll => ?_⟩
    obtain ⟨hFirst, hOthers⟩ := List.forall_mem_cons.1 hAll
    rw [hBrings hFirst, hBrought hOthers, brought]

theorem isAmong_performAll (js : Behaviour) (hSound : pool.Sound) {trace : Trace}
    (h : Unfailing ((performAll js pool steps).run trace).1.2) (holder : Holder) (id : Data) :
    id.isAmong (((performAll js pool steps).run trace).1.1.get holder).covered = true ↔
      id.isAmong (pool.get holder).covered = true ∨
        id.isAmong (brought js holder pool trace steps) = true := by
  obtain ⟨ids, hGains, hBrought⟩ := gains_performAll js hSound steps trace holder
  rw [← hBrought h]
  exact hGains.isAmong_iff (hSound holder) id

theorem isAmong_brought (h : ∀ step ∈ steps, step.isGiven = true) (js : Behaviour)
    (start pool : Pool) (startTrace trace : Trace) (wanted : Holder) (id : Data) :
    id.isAmong (brought js wanted pool trace steps) = true ↔
      ∃ step ∈ steps, id.isAmong (step.brings js start startTrace wanted) = true := by
  induction steps generalizing pool trace with
  | nil => simp [brought, Data.isAmong]
  | cons step rest ih =>
    obtain ⟨hStep, hRest⟩ := List.forall_mem_cons.1 h
    rw [brought, Step.brings_of_isGiven hStep js pool start trace startTrace wanted]
    simp only [Data.isAmong, List.any_append, Bool.or_eq_true] at ih ⊢
    simp [ih hRest]

theorem unfailing_iff (js : Behaviour) {start : Pool} (hSound : pool.Sound)
    (hCatalogs : ∀ holder, (pool.get holder).catalog = (start.get holder).catalog)
    (h : ∀ step ∈ steps, step.isGiven = true) (trace : Trace) :
    Unfailing ((performAll js pool steps).run trace).1.2 ↔ ∀ step ∈ steps, step.Fits start := by
  induction steps generalizing pool trace with
  | nil => exact ⟨fun _ => by simp, fun _ result hResult => by cases hResult⟩
  | cons step rest ih =>
    obtain ⟨hStep, hRest⟩ := List.forall_mem_cons.1 h
    have hNext : ∀ holder, (((step.perform js pool).run trace).1.1.get holder).catalog =
        (start.get holder).catalog := fun holder => by
      obtain ⟨ids, hGains, -⟩ := Step.gains_perform js hSound step trace holder
      rw [hGains.catalog_eq, hCatalogs holder]
    rw [run_performAll_cons]
    refine (List.forall_mem_cons).trans ?_
    rw [List.forall_mem_cons]
    exact and_congr
      ((Step.perform_eq_ok_iff js hStep trace).trans (Step.fits_congr hCatalogs step))
      (ih (Step.sound_perform js hSound step trace) hNext hRest _)

end Pool

/-- The set `t` has the targets of `s`, what was reached in `s` comes first in `t`, and what is
reached are targets, each at most once. -/
structure CoverSet.Grows (s t : CoverSet) : Prop where
  catalog_eq : t.catalog = s.catalog
  total_eq : t.total = s.total
  kept : s.covered <+: t.covered
  within : ∀ id ∈ t.covered, id.isAmong s.catalog.ids = true
  once : (t.covered.map Data.whole?).Nodup
  length_le : t.covered.length ≤ s.total

theorem CoverSet.Gains.grows {s t : CoverSet} {ids : List Data} (h : Gains s ids t)
    (hSound : s.Sound) : s.Grows t where
  catalog_eq := h.catalog_eq
  total_eq := congrArg List.length h.catalog_eq
  kept := h.covered_prefix
  within := h.catalog_eq ▸ (h.sound hSound).within
  once := (h.sound hSound).once
  length_le := (h.sound hSound).length_le.trans_eq (congrArg List.length h.catalog_eq)

namespace Pool

/-- Whatever is done with the cover sets and programs of a pool, and whatever fails of it: targets
stay the same, nothing that was reached is lost, and only targets are reached. A step with cover sets
only that fails changes nothing. If no step fails, then what is reached was reached before or is
brought by a step, so only the ids that are brought matter and not their order, and steps that add
given ids can be done in any order and any number of times. -/
theorem performAll_covered (js : Behaviour) {pool : Pool} (hSound : pool.Sound)
    (steps : List Step) (trace : Trace) :
    let after := ((performAll js pool steps).run trace).1.1
    let results := ((performAll js pool steps).run trace).1.2
    (∀ holder, (pool.get holder).Grows (after.get holder)) ∧
    (∀ (step : Step) (later : Trace), step.isUpdate = true →
      ((step.perform js after).run later).1.2 ≠ .ok () →
      ((step.perform js after).run later).1.1 = after) ∧
    (Unfailing results → ∀ (holder : Holder) (id : Data),
      (id.isAmong (after.get holder).covered = true ↔
        id.isAmong (pool.get holder).covered = true ∨
          id.isAmong (brought js holder pool trace steps) = true)) ∧
    (Unfailing results → (∀ step ∈ steps, step.isGiven = true) →
      ∀ (others : List Step) (otherTrace : Trace), (∀ step, step ∈ others ↔ step ∈ steps) →
        Unfailing ((performAll js pool others).run otherTrace).1.2 ∧
        ∀ (holder : Holder) (id : Data),
          id.isAmong (((performAll js pool others).run otherTrace).1.1.get holder).covered =
            id.isAmong (after.get holder).covered) := by
  refine ⟨fun holder => ?_, fun step later hStep => Step.perform_of_isUpdate js hStep later,
    fun hAll holder id => isAmong_performAll js hSound hAll holder id,
    fun hAll hGiven others otherTrace hSame => ?_⟩
  · obtain ⟨ids, hGains, -⟩ := gains_performAll js hSound steps trace holder
    exact hGains.grows (hSound holder)
  · have hOthers : ∀ step ∈ others, step.isGiven = true := fun step hStep =>
      hGiven step ((hSame step).1 hStep)
    have hFits := (unfailing_iff js hSound (fun _ => rfl) hGiven trace).1 hAll
    have hDone := (unfailing_iff js hSound (fun _ => rfl) hOthers otherTrace).2
      (fun step hStep => hFits step ((hSame step).1 hStep))
    refine ⟨hDone, fun holder id => Bool.eq_iff_iff.2 ?_⟩
    rw [isAmong_performAll js hSound hDone, isAmong_performAll js hSound hAll,
      isAmong_brought hOthers js pool pool trace otherTrace,
      isAmong_brought hGiven js pool pool trace trace]
    simp only [hSame]

/-- A cover set with three targets. -/
def triple : CoverSet where
  catalog := [.int 0, .int 1, .int 2].map fun id =>
    (id, ⟨⟨1, 0, 0⟩, ⟨1, 5, 5⟩, Int.natCast_nonneg 5⟩)

/-- Isolates that always tell of two functions and a branch. -/
def telling : Behaviour := fun _ _ =>
  .ok (.text "\x7b\"func\": [2, 0, 2], \"stmt\": [], \"branch\": [1]\x7d")

/-- The program `x => y => z => a ? b : c;` as it comes from the grammar. -/
def arrows : Script where
  code := "x => y => z => a ? b : c;"
  tree :=
    .part .program 0 25 "" [.part .expressionStatement 0 25 "" [.part .arrowFunction 0 24 ""
      [.part .identifier 0 1 "parameter" [], .part .arrowFunction 5 24 "body"
        [.part .identifier 5 6 "parameter" [], .part .arrowFunction 10 24 "body"
          [.part .identifier 10 11 "parameter" [], .part .ternaryExpression 15 24 "body"
            [.part .identifier 15 16 "condition" [], .part .identifier 19 20 "consequence" [],
             .part .identifier 23 24 "alternative" []]]]]]]

/-- That program, instrumented and loaded. -/
def begun : Coverage :=
  ((Coverage.start telling Config.default arrows).run.run []).1.toOption.get (by decide +kernel)

/-- A pool in which nothing is reached yet. -/
def fresh : Pool where
  sets _ := triple
  programs _ := begun

/-- A run between an addition and a merger, and a close. -/
def course : List Step :=
  [.add (.alone 0) (.int 1), .act 0 (.runSingle (.list [])), .merge (.alone 0) (.space 0 .func),
    .act 0 .close]

/-- A program that was started and a set of its own are sound. -/
theorem fresh_sound : fresh.Sound := by
  have hOk {x : Except Failure Coverage} (h : x.toOption.isSome = true) :
      x = .ok (x.toOption.get h) := by
    cases x with
    | error failure => cases h
    | ok coverage => rfl
  have hStart : ((Coverage.start telling Config.default arrows).run.run []).1 = .ok begun := hOk _
  intro holder
  cases holder with
  | alone number => exact CoverSet.sound_fresh (by decide)
  | space program space => exact Coverage.sound_start telling hStart space

/-- The set that stands alone has in the end what was added to it and what the run told of
functions; a further id that is no target does not change it. -/
theorem performAll_covered_course :
    let after := ((performAll telling fresh course).run []).1.1
    fresh.Sound ∧ Unfailing ((performAll telling fresh course).run []).1.2 ∧
      (brought telling (.alone 0) fresh [] course).map Data.whole? = [some 1, some 2, some 0] ∧
      (∀ id : Data, id.isAmong (after.get (.alone 0)).covered = true ↔
        id.isAmong [] = true ∨ id.isAmong (brought telling (.alone 0) fresh [] course) = true) ∧
      (((Step.add (.alone 0) (.int 7)).perform telling after).run []).1.1 = after := by
  obtain ⟨-, hFailing, hReached, -⟩ := performAll_covered telling fresh_sound course []
  have hResults : ((performAll telling fresh course).run []).1.2.map Except.toOption =
      [some (), some (), some (), some ()] := by decide +kernel
  have hAll : Unfailing ((performAll telling fresh course).run []).1.2 := by
    intro result hResult
    have hSome : result.toOption ∈ [some (), some (), some (), some ()] :=
      hResults ▸ List.mem_map_of_mem hResult
    cases result with
    | ok done => rfl
    | error failure => simp [Except.toOption] at hSome
  have hRefused : ((((Step.add (.alone 0) (.int 7)).perform telling
      ((performAll telling fresh course).run []).1.1).run []).1.2).toOption = none := by
    decide +kernel
  refine ⟨fresh_sound, hAll, by decide +kernel, hReached hAll (.alone 0), ?_⟩
  exact hFailing _ [] rfl fun hOk => by rw [hOk] at hRefused; cases hRefused

end Pool

end Assay
