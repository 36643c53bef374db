import Mathlib

/-! Selections of an ordered log.

A log reader sorts what it is given by an order key and keeps one element of
each identity key (`arrange`). On elements of a log that is already in strict
order with distinct identities (`Arranged`), arranging any list of them is
filtering the log (`arrange_eq_filter`), so two readers agree as soon as they
pick the same elements.

A pinned window keeps the newest `n` elements and the latest element of each
pinned kind. It is the dropped part's pins followed by the newest `n`
(`window_eq`), and it has the log's own latest element of every pinned kind
(`latest_window`).

A list sorted by the newest first begins with the first of its newest
(`head?_sorted_eq_some_iff`). -/
namespace OpenTimeline.Library

variable {α κ ο ι : Type}

/-- Where a list with one more element splits: at that element, or earlier. -/
theorem snoc_eq_split_iff {l pre suf : List α} {a b : α} : l ++ [b] = pre ++ a :: suf ↔
    (suf = [] ∧ l = pre ∧ b = a) ∨ ∃ suf', suf = suf' ++ [b] ∧ l = pre ++ a :: suf' := by
  constructor
  · intro h
    rcases List.eq_nil_or_concat suf with rfl | ⟨suf', c, rfl⟩
    · obtain ⟨rfl, hsame⟩ := List.append_inj' h rfl
      rw [List.cons.injEq] at hsame
      exact Or.inl ⟨rfl, rfl, hsame.1⟩
    · rw [List.concat_eq_append, ← List.cons_append, ← List.append_assoc] at h
      obtain ⟨hl, hsame⟩ := List.append_inj' h rfl
      rw [List.cons.injEq] at hsame
      exact Or.inr ⟨suf', by rw [List.concat_eq_append, hsame.1], hl⟩
  · rintro (⟨rfl, rfl, rfl⟩ | ⟨suf', rfl, rfl⟩)
    · rfl
    · rw [List.append_assoc, List.cons_append]

/-! ### One element per identity -/

section Dedupe
variable [DecidableEq κ] (key : α → κ)

/-- Keeps the first element of each identity not already seen. -/
def dedupeFrom : List κ → List α → List α
  | _, [] => []
  | seen, a :: rest =>
    if key a ∈ seen then dedupeFrom seen rest else a :: dedupeFrom (key a :: seen) rest

def dedupe (l : List α) : List α := dedupeFrom key [] l

theorem dedupeFrom_sublist (seen : List κ) (l : List α) : (dedupeFrom key seen l).Sublist l := by
  induction l generalizing seen with
  | nil => exact .slnil
  | cons a rest ih =>
    unfold dedupeFrom
    split
    · exact (ih _).cons _
    · exact (ih _).cons_cons _

theorem key_mem_dedupeFrom (seen : List κ) (l : List α) (k : κ) :
    k ∈ (dedupeFrom key seen l).map key ↔ k ∉ seen ∧ k ∈ l.map key := by
  induction l generalizing seen with
  | nil => simp [dedupeFrom]
  | cons a rest ih =>
    unfold dedupeFrom
    split
    case isTrue h =>
      rw [ih, List.map_cons, List.mem_cons]
      have hne : k ∉ seen → k ≠ key a := fun hk he => hk (he ▸ h)
      tauto
    case isFalse h =>
      rw [List.map_cons, List.mem_cons, ih, List.map_cons, List.mem_cons, List.mem_cons]
      by_cases hk : k = key a
      · simp [hk, h]
      · simp [hk]

theorem dedupeFrom_nodup (seen : List κ) (l : List α) : ((dedupeFrom key seen l).map key).Nodup := by
  induction l generalizing seen with
  | nil => exact List.nodup_nil
  | cons a rest ih =>
    unfold dedupeFrom
    split
    · exact ih _
    · rw [List.map_cons, List.nodup_cons]
      refine ⟨fun hm => ?_, ih _⟩
      exact ((key_mem_dedupeFrom key _ rest (key a)).mp hm).1 List.mem_cons_self

theorem dedupe_sublist (l : List α) : (dedupe key l).Sublist l := dedupeFrom_sublist key [] l

theorem dedupe_nodup (l : List α) : ((dedupe key l).map key).Nodup := dedupeFrom_nodup key [] l

theorem key_mem_dedupe (l : List α) (k : κ) : k ∈ (dedupe key l).map key ↔ k ∈ l.map key := by
  simp [dedupe, key_mem_dedupeFrom]

theorem dedupeFrom_congr {seen seen' : List κ} {l : List α} (h : ∀ a ∈ l, key a ∈ seen ↔ key a ∈ seen') :
    dedupeFrom key seen l = dedupeFrom key seen' l := by
  induction l generalizing seen seen' with
  | nil => rfl
  | cons a rest ih =>
    have hrest := fun b hb => h b (List.mem_cons_of_mem _ hb)
    simp only [dedupeFrom, h a List.mem_cons_self]
    split_ifs
    · exact ih hrest
    · exact congrArg (a :: ·) (ih fun b hb => by rw [List.mem_cons, List.mem_cons, hrest b hb])

/-- Parts that share no identity are deduplicated one by one. -/
theorem dedupeFrom_append {l l' : List α} (h : ∀ a ∈ l, ∀ b ∈ l', key b ≠ key a) (seen : List κ) :
    dedupeFrom key seen (l ++ l') = dedupeFrom key seen l ++ dedupeFrom key seen l' := by
  induction l generalizing seen with
  | nil => rfl
  | cons a rest ih =>
    have hrest := ih fun b hb => h b (List.mem_cons_of_mem _ hb)
    rw [List.cons_append, dedupeFrom, dedupeFrom]
    split_ifs
    · exact hrest seen
    · rw [hrest, List.cons_append]
      refine congrArg (fun tail => a :: (dedupeFrom key (key a :: seen) rest ++ tail)) (dedupeFrom_congr key fun b hb => ?_)
      rw [List.mem_cons, or_iff_right (h a List.mem_cons_self b hb)]

theorem dedupe_append {l l' : List α} (h : ∀ a ∈ l, ∀ b ∈ l', key b ≠ key a) :
    dedupe key (l ++ l') = dedupe key l ++ dedupe key l' := dedupeFrom_append key h []

end Dedupe

/-! ### Arranging -/

section Arrange
variable [LinearOrder ο] (ord : α → ο) (key : α → κ)

/-- In strict order, with distinct identities. -/
structure Arranged (l : List α) : Prop where
  sorted : l.Pairwise fun a b => ord a < ord b
  distinct : (l.map key).Nodup

variable {ord key}

theorem Arranged.eq_of_key {l : List α} (h : Arranged ord key l) {a b : α} (ha : a ∈ l) (hb : b ∈ l)
    (hk : key a = key b) : a = b := List.inj_on_of_nodup_map h.distinct ha hb hk

theorem Arranged.eq_of_ord {l : List α} (h : Arranged ord key l) {a b : α} (ha : a ∈ l) (hb : b ∈ l)
    (ho : ord a = ord b) : a = b := by
  have hnodup : (l.map ord).Nodup := List.pairwise_map.mpr (h.sorted.imp ne_of_lt)
  exact List.inj_on_of_nodup_map hnodup ha hb ho

theorem Arranged.nodup {l : List α} (h : Arranged ord key l) : l.Nodup := h.distinct.of_map

theorem Arranged.sublist {l l' : List α} (h : Arranged ord key l) (hs : l'.Sublist l) :
    Arranged ord key l' :=
  ⟨h.sorted.sublist hs, h.distinct.sublist (hs.map key)⟩

/-- Two arranged lists with the same elements are equal. -/
theorem Arranged.ext {l l' : List α} (h : Arranged ord key l) (h' : Arranged ord key l')
    (hm : ∀ a, a ∈ l ↔ a ∈ l') : l = l' := by
  have hperm : l.Perm l' := (List.perm_ext_iff_of_nodup h.nodup h'.nodup).mpr hm
  exact hperm.eq_of_pairwise (fun a b _ _ hab hba => absurd (hab.trans hba) (lt_irrefl _))
    h.sorted h'.sorted

variable [DecidableEq κ]

variable (ord key) in
/-- Sorted by `ord`, one element per identity. -/
def arrange (l : List α) : List α := dedupe key (l.insertionSort fun a b => ord a ≤ ord b)

theorem mem_of_mem_arrange {l : List α} {a : α} (h : a ∈ arrange ord key l) : a ∈ l :=
  (List.mem_insertionSort _).mp ((dedupe_sublist key _).subset h)

variable (ord key) in
theorem key_mem_arrange (l : List α) (k : κ) : k ∈ (arrange ord key l).map key ↔ k ∈ l.map key := by
  rw [arrange, key_mem_dedupe, List.mem_map, List.mem_map]
  simp only [List.mem_insertionSort]

/-- Arranging arranges, when elements in the same place have the same identity. -/
theorem arranged_arrange (hsame : ∀ a b, ord a = ord b → key a = key b) (l : List α) :
    Arranged ord key (arrange ord key l) := by
  have hnodup : ((arrange ord key l).map key).Nodup := dedupe_nodup key _
  refine ⟨?_, hnodup⟩
  have hle : (arrange ord key l).Pairwise fun a b => ord a ≤ ord b :=
    (List.pairwise_insertionSort (fun a b : α => ord a ≤ ord b) l).sublist (dedupe_sublist key _)
  have hne : (arrange ord key l).Pairwise fun a b => key a ≠ key b := List.pairwise_map.mp hnodup
  exact hle.imp₂ (fun a b h hk => lt_of_le_of_ne h fun he => hk (hsame a b he)) hne

/-- Arranging some elements of an arranged log filters the log. -/
theorem Arranged.arrange_eq_filter {log l : List α} (h : Arranged ord key log)
    (hsub : ∀ a ∈ l, a ∈ log) : arrange ord key l = log.filter fun a => key a ∈ l.map key := by
  have hsame : ∀ a ∈ l, ∀ b ∈ l, key a = key b → a = b :=
    fun a ha b hb => h.eq_of_key (hsub a ha) (hsub b hb)
  have hle : (arrange ord key l).Pairwise fun a b => ord a ≤ ord b :=
    (List.pairwise_insertionSort (fun a b : α => ord a ≤ ord b) l).sublist (dedupe_sublist key _)
  have hnodup : ((arrange ord key l).map key).Nodup := dedupe_nodup key _
  have hsubset : ∀ a ∈ arrange ord key l, a ∈ log := fun a ha => hsub a (mem_of_mem_arrange ha)
  have hperm : (arrange ord key l).Perm (log.filter fun a => key a ∈ l.map key) := by
    refine (List.perm_ext_iff_of_nodup hnodup.of_map (h.nodup.filter _)).mpr fun a => ?_
    simp only [List.mem_filter, decide_eq_true_eq]
    constructor
    · intro ha
      exact ⟨hsubset a ha, List.mem_map_of_mem (mem_of_mem_arrange ha)⟩
    · rintro ⟨hlog, hk⟩
      obtain ⟨b, hb, hkb⟩ := List.mem_map.mp ((key_mem_arrange ord key l (key a)).mpr hk)
      exact h.eq_of_key (hsubset b hb) hlog hkb ▸ hb
  refine hperm.eq_of_pairwise (fun a b ha hb hab hba => ?_) hle
    ((h.sublist List.filter_sublist).sorted.imp le_of_lt)
  exact h.eq_of_ord (hsubset a ha) (List.mem_of_mem_filter hb) (le_antisymm hab hba)

/-- Elements of a log already listed in its order are arranged as they stand. -/
theorem Arranged.arrange_eq_of_sublist {log l l' : List α} (h : Arranged ord key log)
    (hs : l'.Sublist log) (hm : ∀ a, a ∈ l' ↔ a ∈ l) : arrange ord key l = l' := by
  have hsub : ∀ a ∈ l, a ∈ log := fun a ha => hs.subset ((hm a).mpr ha)
  rw [h.arrange_eq_filter hsub]
  refine Arranged.ext (h.sublist List.filter_sublist) (h.sublist hs) fun a => ?_
  simp only [List.mem_filter, decide_eq_true_eq, List.mem_map, hm]
  constructor
  · rintro ⟨ha, b, hb, hk⟩
    exact h.eq_of_key (hsub b hb) ha hk ▸ hb
  · exact fun ha => ⟨hsub a ha, a, ha, rfl⟩

/-- Arranging some elements of a log is some filter of it that keeps them. -/
theorem Arranged.exists_filter {log l : List α} (h : Arranged ord key log) (hsub : ∀ a ∈ l, a ∈ log) :
    ∃ P : α → Bool, arrange ord key l = log.filter P ∧ ∀ a ∈ l, P a = true :=
  ⟨_, h.arrange_eq_filter hsub, fun _ ha => decide_eq_true (List.mem_map_of_mem ha)⟩

theorem orderedInsert_append {a : α} {l' : List α} (h : ∀ b ∈ l', ord a ≤ ord b) (l : List α) :
    (l ++ l').orderedInsert (fun a b => ord a ≤ ord b) a = l.orderedInsert (fun a b => ord a ≤ ord b) a ++ l' := by
  induction l with
  | nil =>
    cases l' with
    | nil => rfl
    | cons b rest => exact if_pos (h b List.mem_cons_self)
  | cons b rest ih =>
    simp only [List.cons_append, List.orderedInsert_cons]
    split_ifs
    · rfl
    · rw [ih, List.cons_append]

/-- Of two parts, one after the other in the order, each is sorted by itself. -/
theorem insertionSort_append {l l' : List α} (h : ∀ a ∈ l, ∀ b ∈ l', ord a ≤ ord b) :
    (l ++ l').insertionSort (fun a b => ord a ≤ ord b) =
      l.insertionSort (fun a b => ord a ≤ ord b) ++ l'.insertionSort (fun a b => ord a ≤ ord b) := by
  induction l with
  | nil => rfl
  | cons a rest ih =>
    rw [List.cons_append, List.insertionSort_cons, ih fun b hb => h b (List.mem_cons_of_mem _ hb),
      orderedInsert_append fun b hb => h a List.mem_cons_self b ((List.mem_insertionSort _).mp hb), List.insertionSort_cons]

theorem arrange_append {l l' : List α} (hord : ∀ a ∈ l, ∀ b ∈ l', ord a ≤ ord b)
    (hkey : ∀ a ∈ l, ∀ b ∈ l', key b ≠ key a) : arrange ord key (l ++ l') = arrange ord key l ++ arrange ord key l' := by
  rw [arrange, insertionSort_append hord, dedupe_append]
  · rfl
  · exact fun a ha b hb => hkey a ((List.mem_insertionSort _).mp ha) b ((List.mem_insertionSort _).mp hb)

end Arrange

/-! ### Pinned windows -/

section Window
variable [DecidableEq ι] (kind : α → ι)

/-- The last element of kind `k`. -/
def latest (k : ι) (l : List α) : Option α := (l.filter fun a => kind a = k).getLast?

/-- The latest element of each kind of `ks` that occurs. -/
def pins (ks : List ι) (l : List α) : List α := ks.filterMap fun k => latest kind k l

def newest (n : Nat) (l : List α) : List α := l.drop (l.length - n)

def older (n : Nat) (l : List α) : List α := l.take (l.length - n)

theorem older_append_newest (n : Nat) (l : List α) : older n l ++ newest n l = l :=
  List.take_append_drop _ l

theorem length_newest (n : Nat) (l : List α) : (newest n l).length = min n l.length := by
  simp only [newest, List.length_drop]
  omega

variable {kind}

theorem latest_append (k : ι) (l l' : List α) :
    latest kind k (l ++ l') = (latest kind k l').or (latest kind k l) := by
  simp [latest, List.getLast?_append]

theorem mem_of_latest {k : ι} {l : List α} {a : α} (h : latest kind k l = some a) :
    a ∈ l ∧ kind a = k := by
  have hm := List.mem_of_getLast? h
  simpa using hm

theorem latest_eq_none_iff {k : ι} {l : List α} : latest kind k l = none ↔ ∀ a ∈ l, kind a ≠ k := by
  simp [latest]

theorem latest_split {k : ι} {p q : List α} {a : α} (ha : kind a = k) (hq : ∀ b ∈ q, kind b ≠ k) :
    latest kind k (p ++ a :: q) = some a := by
  have hq' : q.filter (fun b => kind b = k) = [] := by simpa using hq
  simp [latest, ha, hq']

/-- The latest element splits a list at its last occurrence of the kind. -/
theorem exists_split_of_latest {k : ι} {l : List α} {a : α} (h : latest kind k l = some a) :
    ∃ p q, l = p ++ a :: q ∧ kind a = k ∧ ∀ b ∈ q, kind b ≠ k := by
  induction l using List.reverseRecOn with
  | nil => cases h
  | append_singleton l b ih =>
    by_cases hb : kind b = k
    · have hlast : latest kind k (l ++ [b]) = some b := latest_split hb (by simp)
      rw [hlast, Option.some.injEq] at h
      subst h
      exact ⟨l, [], rfl, hb, by simp⟩
    · have hnone : latest kind k [b] = none := by simp [latest_eq_none_iff, hb]
      rw [latest_append, hnone, Option.none_or] at h
      obtain ⟨p, q, rfl, ha, hq⟩ := ih h
      refine ⟨p, q ++ [b], by simp, ha, fun c hc => ?_⟩
      rcases List.mem_append.mp hc with hc | hc
      · exact hq c hc
      · rw [List.mem_singleton.mp hc]
        exact hb

/-- A filter that keeps the latest element of a kind has the same latest element. -/
theorem latest_filter {k : ι} {l : List α} {P : α → Bool} (h : ∀ a, latest kind k l = some a → P a = true) :
    latest kind k (l.filter P) = latest kind k l := by
  cases hl : latest kind k l with
  | none =>
    rw [latest_eq_none_iff] at hl ⊢
    exact fun a ha => hl a (List.mem_of_mem_filter ha)
  | some a =>
    obtain ⟨p, q, rfl, ha, hq⟩ := exists_split_of_latest hl
    rw [List.filter_append, List.filter_cons_of_pos (h a hl)]
    exact latest_split ha fun b hb => hq b (List.mem_of_mem_filter hb)

theorem mem_pins {ks : List ι} {l : List α} {a : α} :
    a ∈ pins kind ks l ↔ ∃ k ∈ ks, latest kind k l = some a := List.mem_filterMap

theorem pins_subset {ks : List ι} {l : List α} {a : α} (h : a ∈ pins kind ks l) : a ∈ l := by
  obtain ⟨k, _, hk⟩ := mem_pins.mp h
  exact (mem_of_latest hk).1

theorem mem_pins_iff {ks : List ι} {l : List α} {a : α} :
    a ∈ pins kind ks l ↔ kind a ∈ ks ∧ latest kind (kind a) l = some a := by
  rw [mem_pins]
  constructor
  · rintro ⟨k, hk, hl⟩
    have := (mem_of_latest hl).2
    subst this
    exact ⟨hk, hl⟩
  · rintro ⟨hk, hl⟩
    exact ⟨_, hk, hl⟩

variable [LinearOrder ο] [DecidableEq κ] {ord : α → ο} {key : α → κ}

variable (kind key) in
/-- The pins that fall in the part of the log older than the newest `n`. -/
def kept (ks : List ι) (n : Nat) (log : List α) : List α :=
  (older n log).filter fun a => key a ∈ (pins kind ks log).map key

/-- A window's selection is the older part's pins followed by the newest `n`. -/
theorem Arranged.window_eq {log : List α} (h : Arranged ord key log) (ks : List ι) (n : Nat) :
    arrange ord key (pins kind ks log ++ newest n log) = kept kind key ks n log ++ newest n log := by
  have hsub : ∀ a ∈ pins kind ks log ++ newest n log, a ∈ log := by
    intro a ha
    rcases List.mem_append.mp ha with ha | ha
    · exact pins_subset ha
    · exact List.mem_of_mem_drop ha
  rw [h.arrange_eq_filter hsub]
  have hsplit : log.filter (fun a => decide (key a ∈ (pins kind ks log ++ newest n log).map key)) =
      (older n log).filter (fun a => decide (key a ∈ (pins kind ks log ++ newest n log).map key)) ++
      (newest n log).filter (fun a => decide (key a ∈ (pins kind ks log ++ newest n log).map key)) := by
    rw [← List.filter_append, older_append_newest]
  rw [hsplit]
  congr 1
  · refine List.filter_congr fun a ha => ?_
    have hfresh : key a ∉ (newest n log).map key := by
      intro hm
      obtain ⟨b, hb, hk⟩ := List.mem_map.mp hm
      have hd := h.distinct
      rw [← older_append_newest n log, List.map_append] at hd
      exact (List.disjoint_of_nodup_append hd) (List.mem_map_of_mem ha) (hk ▸ List.mem_map_of_mem hb)
    simp only [List.map_append, List.mem_append, hfresh, or_false]
  · refine List.filter_eq_self.mpr fun a ha => ?_
    simp only [List.map_append, List.mem_append, decide_eq_true_eq]
    exact Or.inr (List.mem_map_of_mem ha)

theorem Arranged.mem_kept {log : List α} (h : Arranged ord key log) {ks : List ι} {n : Nat} {a : α} :
    a ∈ kept kind key ks n log ↔
      a ∈ older n log ∧ kind a ∈ ks ∧ latest kind (kind a) log = some a := by
  simp only [kept, List.mem_filter, decide_eq_true_eq, List.mem_map]
  constructor
  · rintro ⟨ha, b, hb, hk⟩
    have := h.eq_of_key (pins_subset hb) (List.mem_of_mem_take ha) hk
    subst this
    exact ⟨ha, mem_pins_iff.mp hb⟩
  · rintro ⟨ha, hpin⟩
    exact ⟨ha, a, mem_pins_iff.mpr hpin, rfl⟩

theorem eq_toList_of_mem_iff {l : List α} (hn : l.Nodup) {x : Option α}
    (h : ∀ a, a ∈ l ↔ x = some a) : l = x.toList := by
  cases x with
  | none => exact List.eq_nil_iff_forall_not_mem.mpr fun a ha => by simpa using (h a).mp ha
  | some b =>
    have hperm : l.Perm [b] := (List.perm_ext_iff_of_nodup hn (List.nodup_singleton b)).mpr
      fun a => by rw [h a, Option.some.injEq, List.mem_singleton, eq_comm]
    exact List.perm_singleton.mp hperm

/-- What is kept of a pinned kind: its latest element in the older part, unless a
newer element of the kind is among the newest. -/
theorem Arranged.kept_kind {log : List α} (h : Arranged ord key log) {ks : List ι} {n : Nat} {k : ι}
    (hk : k ∈ ks) : (kept kind key ks n log).filter (fun a => kind a = k) =
      if latest kind k (newest n log) = none then (latest kind k (older n log)).toList else [] := by
  have hsplit : latest kind k log = (latest kind k (newest n log)).or (latest kind k (older n log)) := by
    rw [← latest_append, older_append_newest]
  have hnodup : ((kept kind key ks n log).filter (fun a => kind a = k)).Nodup :=
    ((h.nodup.sublist (List.take_sublist _ _)).filter _).filter _
  have hdisjoint : List.Disjoint (older n log) (newest n log) := by
    have hn := h.nodup
    rw [← older_append_newest n log] at hn
    exact List.disjoint_of_nodup_append hn
  cases hnew : latest kind k (newest n log) with
  | none =>
    rw [hnew, Option.none_or] at hsplit
    rw [if_pos rfl]
    refine eq_toList_of_mem_iff hnodup fun a => ?_
    simp only [List.mem_filter, h.mem_kept, decide_eq_true_eq]
    constructor
    · rintro ⟨⟨_, _, hl⟩, rfl⟩
      rw [← hsplit, hl]
    · intro hl
      obtain ⟨ha, rfl⟩ := mem_of_latest hl
      exact ⟨⟨ha, hk, hsplit.trans hl⟩, rfl⟩
  | some b =>
    rw [hnew, Option.some_or] at hsplit
    rw [if_neg (by simp)]
    refine List.eq_nil_iff_forall_not_mem.mpr fun a ha => ?_
    simp only [List.mem_filter, h.mem_kept, decide_eq_true_eq] at ha
    obtain ⟨⟨hold, _, hl⟩, rfl⟩ := ha
    rw [hsplit, Option.some.injEq] at hl
    exact hdisjoint hold (hl ▸ (mem_of_latest hnew).1)

/-- A window has the log's own latest element of every pinned kind. -/
theorem Arranged.latest_window {log : List α} (h : Arranged ord key log) {ks : List ι} {n : Nat} {k : ι}
    (hk : k ∈ ks) : latest kind k (kept kind key ks n log ++ newest n log) = latest kind k log := by
  conv_rhs => rw [← older_append_newest n log]
  rw [latest_append, latest_append]
  cases hnew : latest kind k (newest n log) with
  | some b => rfl
  | none =>
    have hkept : (kept kind key ks n log).filter (fun a => kind a = k) =
        (latest kind k (older n log)).toList := by rw [h.kept_kind hk, if_pos hnew]
    simp only [Option.none_or]
    rw [latest, hkept]
    cases latest kind k (older n log) <;> rfl

/-! ### Growing logs -/

theorem newest_of_length_le {n : Nat} {l : List α} (h : l.length ≤ n) : newest n l = l := by
  simp [newest, Nat.sub_eq_zero_of_le h]

theorem older_of_length_le {n : Nat} {l : List α} (h : l.length ≤ n) : older n l = [] := by
  simp [older, Nat.sub_eq_zero_of_le h]

theorem newest_append {n : Nat} {l l' : List α} (h : n ≤ l'.length) : newest n (l ++ l') = newest n l' := by
  have hlength : (l ++ l').length - n = l.length + (l'.length - n) := by
    rw [List.length_append]
    omega
  rw [newest, hlength, List.drop_append, newest]
  simp

theorem newest_snoc {n : Nat} (h : 0 < n) (l : List α) (a : α) :
    newest n (l ++ [a]) = newest (n - 1) l ++ [a] := by
  have hdrop : (l ++ [a]).length - n = l.length - (n - 1) := by
    rw [List.length_append, List.length_singleton]
    omega
  rw [newest, newest, hdrop, List.drop_append_of_le_length (Nat.sub_le _ _)]

theorem length_pins_le (ks : List ι) (l : List α) : (pins kind ks l).length ≤ ks.length :=
  List.length_filterMap_le _ _

variable (kind key) in
/-- The pinned window of a log: what is kept of the older part, and the newest `n`. -/
def window (ks : List ι) (n : Nat) (log : List α) : List α := kept kind key ks n log ++ newest n log

theorem window_sublist (ks : List ι) (n : Nat) (log : List α) : (window kind key ks n log).Sublist log := by
  have hkept : (kept kind key ks n log).Sublist (older n log) := List.filter_sublist
  have h := hkept.append_right (newest n log)
  rwa [older_append_newest] at h

theorem Arranged.mem_window {log : List α} (h : Arranged ord key log) {ks : List ι} {n : Nat} {a : α} :
    a ∈ window kind key ks n log ↔ a ∈ pins kind ks log ++ newest n log := by
  rw [window, List.mem_append, List.mem_append, h.mem_kept, mem_pins_iff]
  constructor
  · rintro (⟨_, hpin⟩ | hnew)
    · exact Or.inl hpin
    · exact Or.inr hnew
  · rintro (hpin | hnew)
    · have hlog := (mem_of_latest hpin.2).1
      rw [← older_append_newest n log, List.mem_append] at hlog
      exact hlog.imp (fun hold => ⟨hold, hpin⟩) id
    · exact Or.inr hnew

theorem window_of_length_le {ks : List ι} {n : Nat} {log : List α} (h : log.length ≤ n) :
    window kind key ks n log = log := by
  rw [window, kept, older_of_length_le h, newest_of_length_le h]
  rfl

section Grow
variable {log batch : List α} {ks : List ι} {n : Nat} (h : Arranged ord key (log ++ batch))
include h

omit [DecidableEq κ] in
theorem Arranged.of_append : Arranged ord key log := h.sublist (List.sublist_append_left _ _)

/-- A loaded window followed by a batch is in order. -/
theorem Arranged.arrange_window_append :
    arrange ord key (pins kind ks log ++ newest n log ++ batch) = window kind key ks n log ++ batch := by
  refine h.arrange_eq_of_sublist ((window_sublist ks n log).append_right batch) fun a => ?_
  rw [List.mem_append, List.mem_append, h.of_append.mem_window]

theorem Arranged.pins_window_append :
    pins kind ks (window kind key ks n log ++ batch) = pins kind ks (log ++ batch) := by
  refine List.filterMap_congr fun k hk => ?_
  rw [latest_append, latest_append, window, h.of_append.latest_window hk]

omit h in
theorem newest_window_append : newest n (window kind key ks n log ++ batch) = newest n (log ++ batch) := by
  rcases Nat.lt_or_ge n log.length with hlong | hshort
  · have hle : n ≤ (newest n log ++ batch).length := by
      rw [List.length_append, length_newest]
      omega
    conv_rhs => rw [← older_append_newest n log, List.append_assoc]
    rw [window, List.append_assoc, newest_append hle, newest_append hle]
  · rw [window_of_length_le hshort]

/-- The window of a window and a batch is the window of the grown log. -/
theorem Arranged.window_window_append :
    arrange ord key (pins kind ks (window kind key ks n log ++ batch) ++
      newest n (window kind key ks n log ++ batch)) = window kind key ks n (log ++ batch) := by
  rw [h.pins_window_append, newest_window_append]
  exact h.window_eq ks n

/-- The window of a grown log is part of the loaded window and the batch. -/
theorem Arranged.window_grown_sublist :
    (window kind key ks n (log ++ batch)).Sublist (window kind key ks n log ++ batch) := by
  have hgrown : Arranged ord key (window kind key ks n log ++ batch) :=
    h.sublist ((window_sublist ks n log).append_right batch)
  rw [← h.window_window_append, hgrown.window_eq]
  exact window_sublist ks n _

end Grow

end Window
/-! ### Newest first -/

section FirstNewest
variable [LinearOrder ο] (time : α → ο)

/-- The first of the newest. -/
def FirstNewest (l : List α) (a : α) : Prop :=
  ∃ pre suf, l = pre ++ a :: suf ∧ (∀ b ∈ pre, time b < time a) ∧ ∀ b ∈ suf, time b ≤ time a

variable {time}

theorem FirstNewest.mem {l : List α} {a : α} (h : FirstNewest time l a) : a ∈ l := by
  obtain ⟨pre, suf, rfl, _⟩ := h
  exact List.mem_append_right pre List.mem_cons_self

theorem FirstNewest.filter {l : List α} {a : α} {p : α → Bool} (h : FirstNewest time l a) (ha : p a = true) :
    FirstNewest time (l.filter p) a := by
  obtain ⟨pre, suf, rfl, hpre, hsuf⟩ := h
  refine ⟨pre.filter p, suf.filter p, ?_, fun b hb => hpre b (List.mem_of_mem_filter hb),
    fun b hb => hsuf b (List.mem_of_mem_filter hb)⟩
  rw [List.filter_append, List.filter_cons_of_pos ha]

theorem head?_sorted {l : List α} {a : α} (h : FirstNewest time l a) :
    (l.insertionSort fun x y => time y ≤ time x).head? = some a := by
  obtain ⟨pre, suf, rfl, hpre, hsuf⟩ := h
  induction pre with
  | nil =>
    rw [List.nil_append, List.insertionSort_cons]
    cases hsorted : suf.insertionSort fun x y => time y ≤ time x with
    | nil => rfl
    | cons b rest =>
      have hb : b ∈ suf := (List.mem_insertionSort _).mp (hsorted ▸ List.mem_cons_self)
      rw [List.orderedInsert_cons, if_pos (hsuf b hb), List.head?_cons]
  | cons c pre ih =>
    have hhead := ih fun b hb => hpre b (List.mem_cons_of_mem c hb)
    obtain ⟨rest, hrest⟩ := List.head?_eq_some_iff.mp hhead
    rw [List.cons_append, List.insertionSort_cons, hrest, List.orderedInsert_cons,
      if_neg (not_le.mpr (hpre c List.mem_cons_self)), List.head?_cons]

theorem exists_firstNewest {l : List α} (h : l ≠ []) : ∃ a, FirstNewest time l a := by
  induction l with
  | nil => exact absurd rfl h
  | cons c l ih =>
    by_cases hnil : l = []
    · exact ⟨c, [], l, rfl, fun b hb => absurd hb List.not_mem_nil, by simp [hnil]⟩
    obtain ⟨a, pre, suf, rfl, hpre, hsuf⟩ := ih hnil
    obtain hle | hlt := le_or_gt (time a) (time c)
    · refine ⟨c, [], pre ++ a :: suf, rfl, fun b hb => absurd hb List.not_mem_nil, fun b hb => ?_⟩
      obtain hb | hb := List.mem_append.mp hb
      · exact (hpre b hb).le.trans hle
      · obtain rfl | hb := List.mem_cons.mp hb
        · exact hle
        · exact (hsuf b hb).trans hle
    · exact ⟨a, c :: pre, suf, rfl, List.forall_mem_cons.mpr ⟨hlt, hpre⟩, hsuf⟩

/-- Sorted by the newest first, a list begins with the first of its newest. -/
theorem head?_sorted_eq_some_iff {l : List α} {a : α} :
    (l.insertionSort fun x y => time y ≤ time x).head? = some a ↔ FirstNewest time l a := by
  refine ⟨fun h => ?_, head?_sorted⟩
  have hne : l ≠ [] := by
    rintro rfl
    cases h
  obtain ⟨b, hb⟩ : ∃ b, FirstNewest time l b := exists_firstNewest hne
  rw [head?_sorted hb, Option.some.injEq] at h
  rwa [← h]

end FirstNewest

end OpenTimeline.Library
