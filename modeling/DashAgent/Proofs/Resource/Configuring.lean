import DashAgent.Proofs.Resource.Settings
import Mathlib.Logic.Relation

/-!
# Configurations

A configuration is accepted if every field says a setting and the thresholds that are left for
every resource mentioned can be watched. Then the last setting of each component is in force, and
it does not matter in which order the draft lists the resources, nor in which order settings of
different components were given. Main theorem: `configure_exact`.
-/
namespace DashAgent

namespace Monitor

/-! ## Drafts -/

theorem lookup_cons_eq {α β : Type} [DecidableEq α] (key k : α) (value : β) (l : List (α × β)) :
    ((key, value) :: l).lookup k = if key = k then some value else l.lookup k := by
  by_cases hk : key = k
  · simp [hk]
  · have hne : (k == key) = false := beq_eq_false_iff_ne.2 (Ne.symm hk)
    simp [List.lookup_cons, hne, hk]

theorem lookup_assign {α β : Type} [DecidableEq α] (key k : α) (value : β) (l : List (α × β)) :
    (assign key value l).lookup k = if key = k then some value else l.lookup k := by
  induction l with
  | nil => exact lookup_cons_eq key k value []
  | cons e rest ih =>
    obtain ⟨k', v⟩ := e
    rw [assign]
    split
    · next hkey =>
      subst hkey
      rw [lookup_cons_eq, lookup_cons_eq]
      split <;> rfl
    · next hkey =>
      rw [lookup_cons_eq, lookup_cons_eq, ih]
      by_cases hk : k' = k
      · subst hk
        simp [Ne.symm hkey]
      · simp [hk]

theorem nodup_assign {α β : Type} [DecidableEq α] (key : α) (value : β) {l : List (α × β)}
    (h : (l.map Prod.fst).Nodup) : ((assign key value l).map Prod.fst).Nodup := by
  have hkeys : ∀ {l : List (α × β)} {k : α}, k ∈ (assign key value l).map Prod.fst →
      k = key ∨ k ∈ l.map Prod.fst := by
    intro l
    induction l with
    | nil => simp [assign]
    | cons e rest ih =>
      intro k hk
      rw [assign] at hk
      split at hk
      · simpa [‹e.1 = key›] using hk
      · rcases List.mem_cons.1 hk with rfl | hk
        · exact .inr (List.mem_cons_self ..)
        · exact (ih hk).imp_right (List.mem_cons_of_mem _)
  induction l with
  | nil => simp [assign]
  | cons e rest ih =>
    rw [List.map_cons, List.nodup_cons] at h
    rw [assign]
    split
    · next heq => exact List.nodup_cons.2 ⟨heq ▸ h.1, h.2⟩
    · next hne =>
      exact List.nodup_cons.2 ⟨fun hmem => (hkeys hmem).elim hne h.1, ih h.2⟩

theorem lookup_eq_some_iff {α β : Type} [DecidableEq α] {l : List (α × β)}
    (hnodup : (l.map Prod.fst).Nodup) {k : α} {v : β} : l.lookup k = some v ↔ (k, v) ∈ l := by
  induction l with
  | nil => simp
  | cons e rest ih =>
    obtain ⟨k', v'⟩ := e
    rw [List.map_cons, List.nodup_cons] at hnodup
    rw [lookup_cons_eq, List.mem_cons]
    by_cases hk : k' = k
    · subst hk
      have habsent : (k', v) ∉ rest := fun hmem =>
        hnodup.1 (List.mem_map.2 ⟨(k', v), hmem, rfl⟩)
      simp [habsent, eq_comm]
    · simp [hk, Ne.symm hk, ih hnodup.2]

/-- A draft holds what settings ask for: each resource that they mention once, with its
thresholds. -/
structure Gathers (m : Monitor) (settings : List Setting) (draft : ConfigurationDraft) : Prop where
  pollingMs : draft.pollingMs = Setting.last? Setting.pollingMs? settings
  nodup : (draft.thresholds.map Prod.fst).Nodup
  lookup : ∀ r, draft.thresholds.lookup r =
    if settings.any (·.mentions r) then some (m.requested settings r) else none

theorem requested_of_unmentioned {m : Monitor} {settings : List Setting} {r : Resource}
    (h : settings.any (·.mentions r) = false) :
    m.requested settings r = (m.record r).thresholds := by
  have hnone : ∀ {α : Type} (value? : Setting → Option α),
      (∀ s, s.mentions r = false → value? s = none) → Setting.last? value? settings = none := by
    intro α value? hvalue
    have hempty : settings.filterMap value? = [] := by
      rw [List.filterMap_eq_nil_iff]
      intro s hs
      exact hvalue s (by simpa using List.any_eq_false.1 h s hs)
    rw [Setting.last?, hempty]
    rfl
  unfold requested
  rw [hnone (Setting.typeOf? r), hnone (Setting.lowOf? r), hnone (Setting.highOf? r)]
  · rfl
  all_goals
    intro s hs
    rcases s with ms | ⟨s, value⟩
    · rfl
    · have hne : s ≠ r := by simpa [Setting.mentions] using hs
      cases value <;> simp [Setting.typeOf?, Setting.lowOf?, Setting.highOf?, hne]

/-- One more setting replaces the value of its component. -/
theorem requested_append (m : Monitor) (settings : List Setting) (s r : Resource)
    (value : ThresholdValue) :
    m.requested (settings ++ [.threshold s value]) r =
      if s = r then value.putInto (m.requested settings r) else m.requested settings r := by
  unfold requested
  simp only [Setting.last?_append]
  by_cases hs : s = r
  · cases value <;>
      simp [Setting.typeOf?, Setting.lowOf?, Setting.highOf?, hs, ThresholdValue.putInto]
  · cases value <;> simp [Setting.typeOf?, Setting.lowOf?, Setting.highOf?, hs]

theorem requested_append_pollingMs (m : Monitor) (settings : List Setting) (ms : Nat)
    (r : Resource) : m.requested (settings ++ [.pollingMs ms]) r = m.requested settings r := by
  unfold requested
  simp [Setting.last?_append, Setting.typeOf?, Setting.lowOf?, Setting.highOf?]

theorem Gathers.start (m : Monitor) : m.Gathers [] ⟨none, []⟩ := ⟨rfl, List.nodup_nil, fun _ => rfl⟩

theorem Gathers.enter {m : Monitor} {settings : List Setting} {draft : ConfigurationDraft}
    (h : m.Gathers settings draft) (s : Setting) :
    m.Gathers (settings ++ [s]) (m.enter draft s) := by
  cases s with
  | pollingMs ms =>
    refine ⟨?_, h.nodup, fun r => ?_⟩
    · simp [Monitor.enter, Setting.last?_append, Setting.pollingMs?]
    · simpa [Monitor.enter, Setting.mentions, requested_append_pollingMs] using h.lookup r
  | threshold s value =>
    -- What is already asked for, or is in force, is what the value is put into.
    have hcurrent : (draft.thresholds.lookup s).getD (m.record s).thresholds =
        m.requested settings s := by
      rw [h.lookup]
      cases hmentions : settings.any (·.mentions s) with
      | true => rfl
      | false => exact (requested_of_unmentioned hmentions).symm
    refine ⟨?_, nodup_assign _ _ h.nodup, fun r => ?_⟩
    · simpa [Monitor.enter, Setting.last?_append, Setting.pollingMs?] using h.pollingMs
    · simp only [Monitor.enter, hcurrent, lookup_assign, requested_append, List.any_append]
      by_cases hs : s = r
      · subst hs
        simp [Setting.mentions]
      · simpa [Setting.mentions, hs] using h.lookup r

theorem Gathers.enterAll {m : Monitor} (settings : List Setting) {before : List Setting}
    {draft : ConfigurationDraft} (h : m.Gathers before draft) :
    m.Gathers (before ++ settings) (settings.foldl m.enter draft) := by
  induction settings generalizing before draft with
  | nil => simpa using h
  | cons s rest ih =>
    have hnext := ih (h.enter s)
    rwa [List.append_assoc] at hnext

/-- A draft in another order holds the same. -/
theorem Gathers.perm {m : Monitor} {settings : List Setting} {draft : ConfigurationDraft}
    (h : m.Gathers settings draft) {l : List (Resource × Thresholds)}
    (hperm : l.Perm draft.thresholds) :
    m.Gathers settings { draft with thresholds := l } where
  pollingMs := h.pollingMs
  nodup := ((hperm.map Prod.fst).nodup_iff).2 h.nodup
  lookup r := by
    have hnodup := ((hperm.map Prod.fst).nodup_iff).2 h.nodup
    rw [← h.lookup]
    apply Option.ext
    intro t
    rw [lookup_eq_some_iff hnodup, lookup_eq_some_iff h.nodup, hperm.mem_iff]

theorem Gathers.mem_iff {m : Monitor} {settings : List Setting} {draft : ConfigurationDraft}
    (h : m.Gathers settings draft) {r : Resource} {t : Thresholds} :
    (r, t) ∈ draft.thresholds ↔
      settings.any (·.mentions r) = true ∧ m.requested settings r = t := by
  rw [← lookup_eq_some_iff h.nodup, h.lookup]
  cases settings.any (·.mentions r) <;> simp

/-! ## Putting settings in force -/

/-- Rosters of resources are told apart by what they hold for each. -/
theorem roster_ext {ν : Type} {a b : Roster Resource ν} (h : ∀ r, a.get r = b.get r) : a = b := by
  obtain ⟨a⟩ := a
  obtain ⟨b⟩ := b
  have hnumber : ∀ n : Fin (Enumerated.count Resource),
      Enumerated.number (Enumerated.member (ι := Resource) n) = n := by decide
  have hcells : a = b := by
    apply Vector.ext
    intro n hn
    have hget := h (Enumerated.member ⟨n, hn⟩)
    simp only [Roster.get, hnumber] at hget
    exact hget
  rw [hcells]

theorem record_installThresholds (m : Monitor) (s r : Resource) (t : Thresholds) :
    (m.installThresholds s t).record r =
      if s = r then applyThresholds t (m.record r) else m.record r := by
  split
  · next hs =>
    subst hs
    exact record_modifyRecord_self ..
  · next hs => exact record_modifyRecord_of_ne m _ hs

theorem applyThresholds_self (x : ResourceRecord) : applyThresholds x.thresholds x = x := by
  rw [applyThresholds, if_pos rfl]

theorem record_configured (m : Monitor) (settings : List Setting) (r : Resource) :
    (m.configured settings).record r = applyThresholds (m.requested settings r) (m.record r) := by
  have hrecord := Roster.get_tabulate (fun r => { m.record r with
    thresholds := m.requested settings r
    counters :=
      if (m.requested settings r).type = (m.record r).thresholds.type then (m.record r).counters
      else (m.record r).counters.mapValues fun c => { c with exceededCount := 0 } }) r
  refine Eq.trans hrecord ?_
  simp [applyThresholds, eq_comm]

/-- Thresholds are put in force one resource after another. -/
theorem foldl_installThresholds_eq {l : List (Resource × Thresholds)}
    (hnodup : (l.map Prod.fst).Nodup) (m : Monitor) :
    l.foldl (fun m e => m.installThresholds e.1 e.2) m =
      { m with
        records := .tabulate fun r =>
          (l.lookup r).elim (m.record r) fun t => applyThresholds t (m.record r)
        stats := { m.stats with configUpdates := m.stats.configUpdates + l.length } } := by
  induction l generalizing m with
  | nil =>
    have hsame : m.records = .tabulate fun r => m.record r := by
      apply roster_ext
      intro r
      rw [Roster.get_tabulate]
      rfl
    conv => lhs; rw [List.foldl_nil]
    simp [← hsame]
  | cons e rest ih =>
    obtain ⟨s, t⟩ := e
    rw [List.map_cons, List.nodup_cons] at hnodup
    rw [List.foldl_cons, ih hnodup.2]
    have hrecords : ∀ r, (rest.lookup r).elim ((m.installThresholds s t).record r)
        (fun t' => applyThresholds t' ((m.installThresholds s t).record r)) =
          (((s, t) :: rest).lookup r).elim (m.record r) fun t' =>
            applyThresholds t' (m.record r) := by
      intro r
      rw [record_installThresholds, lookup_cons_eq]
      by_cases hs : s = r
      · subst hs
        have habsent : rest.lookup s = none := by
          cases hfound : rest.lookup s with
          | none => rfl
          | some t' =>
            have hmem := (lookup_eq_some_iff hnodup.2).1 hfound
            exact absurd (List.mem_map.2 ⟨(s, t'), hmem, rfl⟩) hnodup.1
        simp [habsent]
      · simp [hs]
    simp only [hrecords]
    simp only [installThresholds, modifyRecord, List.length_cons]
    congr 2
    omega

/-- As many resources as a draft lists are mentioned. -/
theorem Gathers.length_thresholds {m : Monitor} {settings : List Setting}
    {draft : ConfigurationDraft} (h : m.Gathers settings draft) :
    draft.thresholds.length =
      (Resource.all.filter fun r => settings.any (·.mentions r)).length := by
  have hall : Resource.all.Nodup := by decide
  have hnodup : (Resource.all.filter fun r => settings.any (·.mentions r)).Nodup :=
    List.Pairwise.filter _ hall
  have hperm : (draft.thresholds.map Prod.fst).Perm
      (Resource.all.filter fun r => settings.any (·.mentions r)) := by
    rw [List.perm_ext_iff_of_nodup h.nodup hnodup]
    intro r
    rw [List.mem_map, List.mem_filter]
    constructor
    · rintro ⟨⟨s, t⟩, hmem, rfl⟩
      exact ⟨s.mem_all, (h.mem_iff.1 hmem).1⟩
    · rintro ⟨-, hmentions⟩
      exact ⟨(r, _), h.mem_iff.2 ⟨hmentions, rfl⟩, rfl⟩
  rw [← hperm.length_eq, List.length_map]

/-- Putting a draft in force leaves what its settings ask for. -/
theorem Gathers.applyDraft {m : Monitor} {settings : List Setting} {draft : ConfigurationDraft}
    (h : m.Gathers settings draft) : m.applyDraft draft = m.configured settings := by
  have hrecord : ∀ r, (draft.thresholds.lookup r).elim (m.record r)
      (fun t => applyThresholds t (m.record r)) =
        { m.record r with
          thresholds := m.requested settings r
          counters :=
            if (m.requested settings r).type = (m.record r).thresholds.type then
              (m.record r).counters
            else (m.record r).counters.mapValues fun c => { c with exceededCount := 0 } } := by
    intro r
    rw [h.lookup]
    cases hmentions : settings.any (·.mentions r) with
    | true => simp [applyThresholds, eq_comm]
    | false => simp [requested_of_unmentioned hmentions]
  have hlength := h.length_thresholds
  have hpolling := h.pollingMs
  unfold Monitor.applyDraft configured
  cases hms : draft.pollingMs with
  | none =>
    rw [hms] at hpolling
    dsimp only
    rw [foldl_installThresholds_eq h.nodup]
    simp only [hrecord, hlength, ← hpolling]
    rfl
  | some ms =>
    rw [hms] at hpolling
    dsimp only
    rw [foldl_installThresholds_eq h.nodup]
    have hsame : ∀ r, (m.setPollingMs ms).record r = m.record r := fun _ => rfl
    simp only [hsame, hrecord, hlength, ← hpolling]
    rfl

/-! ## Accepted configurations -/

end Monitor

theorem Thresholds.validate_eq_ok_iff {t : Thresholds} : t.validate = .ok () ↔ t.Sound := by
  constructor
  · exact sound_of_validate
  · intro h
    have hbelow : ¬ t.high ≤ t.low := UInt32.not_le.2 h.below
    have hover : ¬ (t.type = .percentage ∧ 100 < t.high) := by
      rintro ⟨htype, hhigh⟩
      exact UInt32.not_lt.2 (h.percentage htype) hhigh
    rw [validate, if_neg hbelow, if_neg hover]

namespace Monitor

theorem checkDraft_eq_ok_iff {l : List (Resource × Thresholds)} :
    checkDraft l = .ok () ↔ ∀ e ∈ l, e.2.Sound := by
  induction l with
  | nil => exact iff_of_true rfl fun _ h => absurd h List.not_mem_nil
  | cons e rest ih =>
    obtain ⟨r, t⟩ := e
    rw [List.forall_mem_cons, ← ih, ← Thresholds.validate_eq_ok_iff, checkDraft]
    cases t.validate <;> simp

/-- The thresholds that settings leave for the resources that they mention can be watched. -/
def Acceptable (m : Monitor) (settings : List Setting) : Prop :=
  ∀ r, settings.any (·.mentions r) = true → (m.requested settings r).Sound

theorem Gathers.checkDraft_iff {m : Monitor} {settings : List Setting}
    {draft : ConfigurationDraft} (h : m.Gathers settings draft) :
    checkDraft draft.thresholds = .ok () ↔ m.Acceptable settings := by
  rw [checkDraft_eq_ok_iff]
  constructor
  · intro hall r hmentions
    exact hall (r, _) (h.mem_iff.2 ⟨hmentions, rfl⟩)
  · rintro hall ⟨r, t⟩ hmem
    obtain ⟨hmentions, rfl⟩ := h.mem_iff.1 hmem
    exact hall r hmentions

/-- A refused configuration leaves the monitor as it was. -/
theorem configure_error {m m' : Monitor} {fields : List (String × String)} {e : MonitorError}
    (h : m.configure fields = (.error e, m')) : m' = m := by
  unfold configure at h
  split at h
  · cases h
    rfl
  · split at h
    · cases h
      rfl
    · cases h

theorem configure_eq_ok_iff {m m' : Monitor} {fields : List (String × String)} :
    m.configure fields = (.ok (), m') ↔ ∃ settings, List.Forall₂ Setting.Says fields settings ∧
      m.Acceptable settings ∧ m' = m.configured settings := by
  unfold configure
  constructor
  · intro h
    split at h
    · cases h
    · next draft hread =>
      obtain ⟨settings, hsays, rfl⟩ := readFields_eq_ok_iff.1 hread
      have hgathers : m.Gathers settings _ := (Gathers.start m).enterAll settings
      split at h
      · cases h
      · next hcheck =>
        cases h
        exact ⟨settings, hsays, hgathers.checkDraft_iff.1 hcheck, hgathers.applyDraft⟩
  · rintro ⟨settings, hsays, hacceptable, rfl⟩
    have hgathers : m.Gathers settings _ := (Gathers.start m).enterAll settings
    rw [readFields_eq_ok_iff.2 ⟨settings, hsays, rfl⟩]
    dsimp only
    rw [hgathers.checkDraft_iff.2 hacceptable]
    dsimp only
    rw [hgathers.applyDraft]

/-! ## Other orders -/

end Monitor

namespace Setting

/-- Two neighbouring fields change places that are not about the same component. -/
inductive Exchange : List (String × String) → List (String × String) → Prop where
  | swap (before : List (String × String)) (f g : String × String)
    (after : List (String × String)) :
    (∀ s t, Says f s → Says g t → s.component? ≠ t.component?) →
    Exchange (before ++ f :: g :: after) (before ++ g :: f :: after)

/-- A value is given by the settings of one component only. -/
def Reads {α : Type} (value? : Setting → Option α) (c : Option (Resource × ThresholdField)) :
    Prop :=
  ∀ s, (value? s).isSome → s.component? = c

theorem reads_pollingMs : Reads pollingMs? none := by
  rintro (ms | ⟨r, value⟩) h
  · rfl
  · cases h

theorem reads_typeOf (r : Resource) : Reads (typeOf? r) (some (r, .type)) := by
  rintro (ms | ⟨s, value⟩) h
  · cases h
  · cases value <;> simp [typeOf?] at h
    subst h
    rfl

theorem reads_lowOf (r : Resource) : Reads (lowOf? r) (some (r, .low)) := by
  rintro (ms | ⟨s, value⟩) h
  · cases h
  · cases value <;> simp [lowOf?] at h
    subst h
    rfl

theorem reads_highOf (r : Resource) : Reads (highOf? r) (some (r, .high)) := by
  rintro (ms | ⟨s, value⟩) h
  · cases h
  · cases value <;> simp [highOf?] at h
    subst h
    rfl

/-- Settings of different components can be given in either order. -/
theorem last?_swap {α : Type} {value? : Setting → Option α}
    {c : Option (Resource × ThresholdField)} (h : Reads value? c) {s t : Setting}
    (hne : s.component? ≠ t.component?) (before after : List Setting) :
    last? value? (before ++ t :: s :: after) = last? value? (before ++ s :: t :: after) := by
  have hone : value? s = none ∨ value? t = none := by
    by_contra hboth
    rw [not_or, ← ne_eq, ← ne_eq, Option.ne_none_iff_isSome, Option.ne_none_iff_isSome] at hboth
    exact hne ((h s hboth.1).trans (h t hboth.2).symm)
  unfold last?
  rcases hone with hs | ht
  · simp [List.filterMap_cons, hs]
  · simp [List.filterMap_cons, ht]

theorem Exchange.symm {fields fields' : List (String × String)} (h : Exchange fields fields') :
    Exchange fields' fields := by
  obtain ⟨before, f, g, after, happart⟩ := h
  exact .swap before g f after fun s t hs ht => (happart t s ht hs).symm

end Setting

namespace Monitor

theorem requested_swap (m : Monitor) {s t : Setting} (hne : s.component? ≠ t.component?)
    (before after : List Setting) (r : Resource) :
    m.requested (before ++ t :: s :: after) r = m.requested (before ++ s :: t :: after) r := by
  unfold requested
  rw [Setting.last?_swap (Setting.reads_typeOf r) hne,
    Setting.last?_swap (Setting.reads_lowOf r) hne,
    Setting.last?_swap (Setting.reads_highOf r) hne]

/-- Fields that change places ask for the same. -/
theorem configure_exchange (m : Monitor) {fields fields' : List (String × String)}
    (h : Setting.Exchange fields fields') {m' : Monitor}
    (hconfigure : m.configure fields = (.ok (), m')) : m.configure fields' = (.ok (), m') := by
  obtain ⟨before, f, g, after, happart⟩ := h
  obtain ⟨settings, hsays, hacceptable, rfl⟩ := configure_eq_ok_iff.1 hconfigure
  obtain ⟨front, back, hfront, hback, rfl⟩ : ∃ front back,
      List.Forall₂ Setting.Says before front ∧
        List.Forall₂ Setting.Says (f :: g :: after) back ∧ settings = front ++ back := by
    refine ⟨settings.take before.length, settings.drop before.length, ?_, ?_,
      (List.take_append_drop ..).symm⟩
    · simpa using List.forall₂_take before.length hsays
    · simpa using List.forall₂_drop before.length hsays
  cases hback with
  | @cons _ s _ _ hs hrest =>
    cases hrest with
    | @cons _ t _ rest ht hrest =>
      have hne := happart s t hs ht
      have hany : ∀ r, (front ++ t :: s :: rest).any (·.mentions r) =
          (front ++ s :: t :: rest).any (·.mentions r) := by
        intro r
        simp only [List.any_append, List.any_cons]
        rw [Bool.or_left_comm (t.mentions r)]
      refine configure_eq_ok_iff.2 ⟨front ++ t :: s :: rest, ?_, ?_, ?_⟩
      · exact List.rel_append hfront (.cons ht (.cons hs hrest))
      · intro r hr
        rw [requested_swap m hne]
        exact hacceptable r (by rwa [← hany])
      · unfold configured
        simp only [requested_swap m hne, hany, Setting.last?_swap Setting.reads_pollingMs hne]

/-- A configuration is accepted just if every field says a setting and the thresholds that are left
for every resource mentioned can be watched; then the settings are in force and nothing else has
changed. A refused one changes nothing. It does not matter in which order the resources of a draft
are checked and changed, nor how fields of different components are ordered. -/
theorem configure_exact (m : Monitor) (fields : List (String × String)) :
    (∀ m', m.configure fields = (.ok (), m') ↔
      ∃ settings, List.Forall₂ Setting.Says fields settings ∧
        (∀ r, settings.any (·.mentions r) = true → (m.requested settings r).Sound) ∧
        m' = m.configured settings) ∧
    (∀ e m', m.configure fields = (.error e, m') → m' = m) ∧
    (∀ draft, m.readFields fields ⟨none, []⟩ = .ok draft → ∀ l, l.Perm draft.thresholds →
      (checkDraft l = .ok () ↔ checkDraft draft.thresholds = .ok ()) ∧
      m.applyDraft { draft with thresholds := l } = m.applyDraft draft) ∧
    (∀ fields', Relation.ReflTransGen Setting.Exchange fields fields' →
      ∀ m', m.configure fields' = (.ok (), m') ↔ m.configure fields = (.ok (), m')) := by
  refine ⟨fun m' => configure_eq_ok_iff, fun e m' => configure_error, ?_, ?_⟩
  · intro draft hread l hperm
    obtain ⟨settings, -, rfl⟩ := readFields_eq_ok_iff.1 hread
    have hgathers : m.Gathers settings _ := (Gathers.start m).enterAll settings
    have hother := hgathers.perm hperm
    exact ⟨hother.checkDraft_iff.trans hgathers.checkDraft_iff.symm,
      hother.applyDraft.trans hgathers.applyDraft.symm⟩
  · intro fields' hreordered
    induction hreordered with
    | refl => exact fun m' => Iff.rfl
    | tail _ hexchange ih =>
      intro m'
      rw [← ih]
      exact ⟨configure_exchange m hexchange.symm, configure_exchange m hexchange⟩

/-- One virtual network at full use, which a check has told. -/
def alarmed : Monitor := ((Monitor.new 1000 .empty).incrementUsed .dashVnet).2.checkThresholds

/-- A virtual network is watched by its use from now on; its low threshold is given twice, under
names in different case. -/
def byUse : List (String × String) :=
  [("dash_vnet_low_threshold", "3"), ("polling_interval", "60"),
    ("DASH_VNET_threshold_type", "Used"), ("dash_vnet_high_threshold", "+200"),
    ("Dash_Vnet_low_threshold", "007")]

/-- The same with the last two fields in the other order. -/
def byUseReordered : List (String × String) :=
  [("dash_vnet_low_threshold", "3"), ("polling_interval", "60"),
    ("DASH_VNET_threshold_type", "Used"), ("Dash_Vnet_low_threshold", "007"),
    ("dash_vnet_high_threshold", "+200")]

/-- The same with a value at the end that is not a number. -/
def byUseSpoilt : List (String × String) := byUse ++ [("dash_eni_high_threshold", "1e3")]

theorem byUse_configured :
    (alarmed.configure byUse).1 = .ok () ∧
    (fun m : Monitor => (m.pollingMs, (m.record .dashVnet).thresholds,
      m.counter? .dashVnet .global, m.stats.configUpdates)) (alarmed.configure byUse).2 =
        (60000, ⟨.used, 7, 200⟩, some ⟨0, 0, 1, 0⟩, 2) ∧
    (alarmed.counter? .dashVnet .global) = some ⟨0, 0, 1, 1⟩ ∧
    alarmed.configure byUseSpoilt =
      (.error (.unreadable (.badValue "dash_eni_high_threshold" "1e3")), alarmed) ∧
    ∀ m', alarmed.configure byUseReordered = (.ok (), m') ↔
      alarmed.configure byUse = (.ok (), m') := by
  have hspoilt : (alarmed.configure byUseSpoilt).1 =
      .error (.unreadable (.badValue "dash_eni_high_threshold" "1e3")) := by decide +kernel
  refine ⟨by decide +kernel, by decide +kernel, by decide +kernel, ?_, ?_⟩
  · obtain ⟨answer, m', hconfigure⟩ : ∃ answer m', alarmed.configure byUseSpoilt = (answer, m') :=
      ⟨_, _, rfl⟩
    rw [hconfigure] at hspoilt ⊢
    obtain rfl : answer = _ := hspoilt
    rw [(configure_exact alarmed byUseSpoilt).2.1 _ _ hconfigure]
  · have happart : ∀ s t, Setting.Says ("dash_vnet_high_threshold", "+200") s →
        Setting.Says ("Dash_Vnet_low_threshold", "007") t → s.component? ≠ t.component? := by
      intro s t hs ht hsame
      obtain ⟨r, kind, hcomponent, hhigh⟩ := hs.names (by decide)
      obtain ⟨r', kind', hcomponent', hlow⟩ := ht.names (by decide)
      obtain ⟨-, rfl⟩ : r = r' ∧ kind = kind' := by
        simpa [hcomponent, hcomponent'] using hsame
      exact absurd (hhigh.letter.trans hlow.letter.symm) (by decide)
    have hexchange : Setting.Exchange byUse byUseReordered :=
      .swap [("dash_vnet_low_threshold", "3"), ("polling_interval", "60"),
        ("DASH_VNET_threshold_type", "Used")] _ _ [] happart
    exact (configure_exact alarmed byUse).2.2.2 byUseReordered (.single hexchange)

end Monitor

end DashAgent
