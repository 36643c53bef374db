import OpenTimeline.Capture.Spool
import OpenTimeline.Library.Ledger
import OpenTimeline.Library.Transition

/-! What becomes of a spooled capture.

Every call of the spool is a run of steps of a ledger (`steps_next`): a write hands an entry
over, a delivered attempt delivers it, and whatever else takes a file away notes its key. So
a key once spooled waits with what was last written under it, or left by a delivered attempt,
or a gap names it (`spool_accounts`). The gap log is never rewritten, so the three exclude
each other only where no key it names is spooled again. -/
namespace OpenTimeline.Capture
open Library

variable (host : SpoolHost)

/-! ### Names -/

theorem entryStem_entryName (key : String) : entryStem (entryName key) = key := by
  simp [entryStem, entryName]

theorem entryName_entryStem {name : String} (h : isEntryName name) : entryName (entryStem name) = name := by
  simp only [isEntryName, Bool.and_eq_true] at h
  obtain ⟨start, hstart⟩ := List.isSuffixOf_iff_suffix.mp h.1.2
  simp only [entryName, entryStem, ← hstart, List.length_append, Nat.add_sub_cancel, List.take_left,
    String.toList_ofList]
  rw [hstart, String.ofList_toList]

theorem entryName_injective {key key' : String} (h : entryName key = entryName key') : key = key' := by
  rw [← entryStem_entryName key, h, entryStem_entryName]

theorem entryName_ne_corrupt (key name : String) : entryName key ≠ name ++ corruptSuffix := by
  intro h
  have hlast := congrArg (fun text => text.toList.getLast?) h
  simp [entryName, entrySuffix, corruptSuffix, String.toList_append] at hlast

/-! ### Runs -/

inductive SpoolAction
  | writeEntry (entry : SpoolEntry) (clock : Clock)
  | recordAttempt (entry : SpoolEntry) (outcome : SpoolEntryState) (error : Option String) (clock : Clock)
  | readEntries (limit : Int) (clock : Clock)
  | enforceCap (maxFiles maxBytes : Int) (clock : Clock)

/-- A spool with what was done to it. -/
structure TracedSpool where
  spool : Spool
  /-- the entry last written under a key -/
  spooled : Dict String SpoolEntry
  /-- the keys whose file a delivered attempt has removed, and that are not spooled again -/
  delivered : List String

namespace TracedSpool

/-- After a write. -/
def written (t : TracedSpool) (entry : SpoolEntry) (spool : Spool) : TracedSpool where
  spool
  spooled := t.spooled.insert entry.deliveryKey entry
  delivered := t.delivered.filter (· ≠ entry.deliveryKey)

/-- After a delivered attempt. -/
def removed (t : TracedSpool) (key : String) (spool : Spool) : TracedSpool where
  spool
  spooled := t.spooled
  delivered := if (t.spool.file key).isSome then key :: t.delivered else t.delivered

/-- After an attempt that went through. -/
def attempted (t : TracedSpool) (outcome : SpoolEntryState) (updated : SpoolEntry) (spool : Spool) : TracedSpool :=
  match outcome with
  | .delivered => t.removed updated.deliveryKey spool
  | .droppedFull => {t with spool}
  | .spooled | .failed => t.written updated spool

def next (t : TracedSpool) : SpoolAction → TracedSpool
  | .writeEntry entry clock =>
    match writeEntry entry clock t.spool with
    | (spool, .ok ()) => t.written entry spool
    | (spool, .error _) => {t with spool}
  | .recordAttempt entry outcome error clock =>
    match recordAttempt entry outcome error clock t.spool with
    | (spool, .ok updated) => t.attempted outcome updated spool
    | (spool, .error _) => {t with spool}
  | .readEntries limit clock => {t with spool := (readEntries host limit clock t.spool).1}
  | .enforceCap maxFiles maxBytes clock => {t with spool := (enforceCap host maxFiles maxBytes clock t.spool).1}

/-- No key is spooled that a gap names, and no attempt drops a key that has no file. -/
def careful (t : TracedSpool) : SpoolAction → Bool
  | .writeEntry entry _ => entry.deliveryKey ∉ t.spool.lost
  | .recordAttempt entry outcome _ _ =>
    match outcome with
    | .delivered => true
    | .droppedFull => (t.spool.file entry.deliveryKey).isSome
    | .spooled | .failed => entry.deliveryKey ∉ t.spool.lost
  | .readEntries _ _ | .enforceCap _ _ _ => true

/-- What a spool is for: the texts handed over and what became of them. -/
def ledger (t : TracedSpool) : Ledger String (Option String) where
  given key := (t.spooled.lookup key).map (some ·.text)
  waiting key := (t.spool.file key).map (·.text)
  delivered := {key | key ∈ t.delivered}
  lost := {key | key ∈ t.spool.lost}

end TracedSpool

/-- Calls in any order, on whatever files and gaps there are. -/
def spoolSystem : System TracedSpool SpoolAction where
  init t := t.spooled = ∅ ∧ t.delivered = []
  next t action := some (t.next host action)

/-! ### Files and the ledger -/

theorem Spool.file_store (s : Spool) (key : String) (file : SpoolFile) :
    (s.store (entryName key) file).file = Function.update s.file key (some file) := by
  funext key'
  by_cases h : key' = key
  · subst h
    simp [Spool.file, Spool.store]
  · have hname : entryName key' ≠ entryName key := fun heq => h (entryName_injective heq)
    simp [Spool.file, Spool.store, AList.lookup_insert_ne hname, h]

theorem Spool.file_unlink (s : Spool) (key : String) :
    (s.unlink (entryName key)).file = Function.update s.file key none := by
  funext key'
  by_cases h : key' = key
  · subst h
    simp [Spool.file, Spool.unlink]
  · have hname : entryName key' ≠ entryName key := fun heq => h (entryName_injective heq)
    simp [Spool.file, Spool.unlink, AList.lookup_erase_ne hname, h]

theorem Spool.file_setAside (s : Spool) (name : String) (file : SpoolFile) :
    (s.store (name ++ corruptSuffix) file).file = s.file := by
  funext key
  exact AList.lookup_insert_ne (entryName_ne_corrupt key name)

theorem mem_lost_appendGap (s : Spool) (record : GapRecord) (key : String) :
    key ∈ (s.appendGap record).lost ↔ key = record.deliveryKey ∨ key ∈ s.lost := by
  simp [Spool.lost, Spool.appendGap, or_comm]

namespace TracedSpool
variable {t : TracedSpool}

theorem ledger_written (entry : SpoolEntry) (clock : Clock) :
    (t.written entry (t.spool.store (entryName entry.deliveryKey) (entry.file clock))).ledger =
      t.ledger.put entry.deliveryKey (some entry.text) := by
  refine Ledger.ext ?_ ?_ ?_ rfl
  · funext key
    by_cases h : key = entry.deliveryKey
    · subst h
      simp [ledger, written, Ledger.put]
    · simp [ledger, written, Ledger.put, AList.lookup_insert_ne h, h]
  · funext key
    by_cases h : key = entry.deliveryKey
    · subst h
      simp [ledger, written, Ledger.put, Spool.file_store, SpoolEntry.file]
    · simp [ledger, written, Ledger.put, Spool.file_store, h]
  · ext key
    simp [ledger, written, Ledger.put]

theorem ledger_removed (key : String) :
    (t.removed key (t.spool.unlink (entryName key))).ledger = t.ledger.deliver key := by
  refine Ledger.ext rfl ?_ ?_ rfl
  · funext key'
    by_cases h : key' = key
    · simp [ledger, removed, Ledger.deliver, Spool.file_unlink, h]
    · simp [ledger, removed, Ledger.deliver, Spool.file_unlink, h]
  · ext key'
    by_cases h : (t.spool.file key).isSome <;> simp [ledger, removed, Ledger.deliver, h, or_comm]

/-- A file that goes with a gap. -/
theorem ledger_dropped {spool : Spool} {key : String} (record : GapRecord) (hkey : record.deliveryKey = key)
    (hfile : spool.file = Function.update t.spool.file key none) (hlost : spool.lost = t.spool.lost) :
    ({t with spool := spool.appendGap record} : TracedSpool).ledger = t.ledger.lose key := by
  refine Ledger.ext rfl ?_ rfl ?_
  · funext key'
    show (spool.file key').map (·.text) = _
    by_cases h : key' = key <;> simp [ledger, Ledger.lose, hfile, h]
  · ext key'
    show key' ∈ (spool.appendGap record).lost ↔ _
    rw [mem_lost_appendGap, hkey, hlost]
    rfl

end TracedSpool

/-! ### Files that go -/

variable {host}

theorem entryOfFields_key {name : String} {fields : Payload} {entry : SpoolEntry}
    (h : entryOfFields host name fields = .ok (some entry)) : entry.deliveryKey = entryStem name := by
  unfold entryOfFields at h
  split at h
  · split_ifs at h with hchecked
    · obtain ⟨createdAt, _, h⟩ := bind_ok h
      obtain ⟨attempts, _, h⟩ := bind_ok h
      cases h
      simp only [Bool.and_eq_true, decide_eq_true_eq] at hchecked
      exact hchecked.1
    · cases h
  · cases h

/-- An entry that is read has the key of its file. -/
theorem parseEntry_key {name : String} {file : SpoolFile} {entry : SpoolEntry}
    (h : parseEntry host name file = .ok (some entry)) : entry.deliveryKey = entryStem name := by
  unfold parseEntry at h
  split at h
  · cases h
  obtain ⟨loaded, _, h⟩ := bind_ok h
  split at h
  · exact entryOfFields_key h
  · cases h

/-- Names of entry files, each of another key, whose files are there. -/
structure Listed (s : Spool) (names : List String) : Prop where
  entry : ∀ name ∈ names, isEntryName name
  there : ∀ name ∈ names, (s.file (entryStem name)).isSome
  nodup : names.Nodup

theorem listed_entryFiles (s : Spool) : Listed s (s.entryFiles.map (·.1)) := by
  refine ⟨?_, ?_, ?_⟩
  · intro name hname
    obtain ⟨file, hfile, rfl⟩ := List.mem_map.mp hname
    exact (List.mem_filter.mp hfile).2
  · intro name hname
    obtain ⟨file, hfile, rfl⟩ := List.mem_map.mp hname
    obtain ⟨hmem, hentry⟩ := List.mem_filter.mp hfile
    rw [Spool.file, entryName_entryStem hentry]
    exact Option.isSome_iff_exists.mpr ⟨file.2, AList.mem_lookup_iff.mpr hmem⟩
  · exact (List.filter_sublist.map _).nodup s.files.nodupKeys

/-- The listing less its first file, once that is gone. -/
theorem Listed.tail {s s' : Spool} {name : String} {rest : List String} (h : Listed s (name :: rest))
    (hfile : s'.file = Function.update s.file (entryStem name) none) : Listed s' rest := by
  obtain ⟨hname, hrest⟩ := List.nodup_cons.mp h.nodup
  refine ⟨fun other hother => h.entry other (List.mem_cons_of_mem _ hother), fun other hother => ?_, hrest⟩
  have hstem : entryStem other ≠ entryStem name := by
    intro heq
    have hsame : other = name := by
      rw [← entryName_entryStem (h.entry other (List.mem_cons_of_mem _ hother)), heq,
        entryName_entryStem (h.entry name List.mem_cons_self)]
    exact hname (hsame ▸ hother)
  rw [hfile, Function.update_of_ne hstem]
  exact h.there other (List.mem_cons_of_mem _ hother)

theorem Listed.rest {s : Spool} {name : String} {rest : List String} (h : Listed s (name :: rest)) : Listed s rest :=
  ⟨fun other hother => h.entry other (List.mem_cons_of_mem _ hother),
    fun other hother => h.there other (List.mem_cons_of_mem _ hother), h.nodup.of_cons⟩

theorem Listed.perm {s : Spool} {names names' : List String} (h : Listed s names) (hperm : names.Perm names') :
    Listed s names' :=
  ⟨fun name hname => h.entry name (hperm.mem_iff.mpr hname), fun name hname => h.there name (hperm.mem_iff.mpr hname),
    hperm.nodup_iff.mp h.nodup⟩

theorem file_unlink_listed {s : Spool} {name : String} (h : isEntryName name) :
    (s.unlink name).file = Function.update s.file (entryStem name) none := by
  conv_lhs => rw [← entryName_entryStem h]
  exact s.file_unlink (entryStem name)

theorem file_setAside_listed {s : Spool} {name : String} (file : SpoolFile) (h : isEntryName name) :
    ((s.unlink name).store (name ++ corruptSuffix) file).file = Function.update s.file (entryStem name) none := by
  rw [Spool.file_setAside, file_unlink_listed h]

/-- A run of ledger steps for what a call does to the files. -/
def Sheds (t : TracedSpool) (s : Spool) : Prop :=
  ∀ careful : Prop, Ledger.Steps careful t.ledger {t with spool := s}.ledger

theorem Sheds.drop {t : TracedSpool} {s dropped : Spool} {name : String} {record : GapRecord}
    (hthere : (t.spool.file (entryStem name)).isSome) (hkey : record.deliveryKey = entryStem name)
    (hfile : dropped.file = Function.update t.spool.file (entryStem name) none) (hlost : dropped.lost = t.spool.lost)
    (h : Sheds {t with spool := dropped.appendGap record} s) : Sheds t s := by
  intro careful
  have hwaiting : (t.ledger.waiting (entryStem name)).isSome := by simpa [TracedSpool.ledger] using hthere
  refine Relation.ReflTransGen.head ?_ (h careful)
  rw [TracedSpool.ledger_dropped record hkey hfile hlost]
  exact .lose _ fun _ => hwaiting

theorem sheds_readFiles (clock : Clock) (files : List (Sigma fun _ : String => SpoolFile)) {t : TracedSpool}
    (h : Listed t.spool (files.map (·.1))) : Sheds t (readFiles host clock files t.spool).1 := by
  induction files generalizing t with
  | nil => exact fun _ => .refl
  | cons file rest ih =>
    obtain ⟨name, file⟩ := file
    have hfile := @file_setAside_listed t.spool name file (h.entry name List.mem_cons_self)
    rw [readFiles]
    split
    · exact fun _ => .refl
    · have hrest := @ih {t with spool := quarantine name file clock t.spool} (h.tail hfile)
      exact Sheds.drop (h.there name List.mem_cons_self) rfl hfile rfl hrest
    · exact ih h.rest

/-- A candidate with what was read of its file. -/
def Candidate.Read (host : SpoolHost) (c : Candidate) : Prop := ∃ file, parseEntry host c.name file = .ok c.entry

theorem Candidate.Read.gap {c : Candidate} (h : c.Read host) (clock : Clock) :
    (c.gap clock).deliveryKey = entryStem c.name := by
  obtain ⟨file, hparse⟩ := h
  unfold Candidate.gap
  split
  · rename_i entry hentry
    rw [hentry] at hparse
    exact parseEntry_key hparse
  · rfl

theorem sheds_evict (maxFiles maxBytes : Int) (clock : Clock) (candidates : List Candidate) {count total : Int}
    {t : TracedSpool} (hread : ∀ c ∈ candidates, c.Read host) (h : Listed t.spool (candidates.map (·.name))) :
    Sheds t (evict maxFiles maxBytes clock candidates count total t.spool).1 := by
  induction candidates generalizing t count total with
  | nil => exact fun _ => .refl
  | cons c rest ih =>
    have hfile : (t.spool.unlink c.name).file = Function.update t.spool.file (entryStem c.name) none :=
      file_unlink_listed (h.entry c.name List.mem_cons_self)
    rw [evict]
    split_ifs
    · exact fun _ => .refl
    · have hrest := @ih (count - 1) (total - c.size)
        {t with spool := (t.spool.unlink c.name).appendGap (c.gap clock)}
        (fun other hother => hread other (List.mem_cons_of_mem _ hother)) (h.tail hfile)
      exact Sheds.drop (h.there c.name List.mem_cons_self) ((hread c List.mem_cons_self).gap clock) hfile rfl hrest

theorem candidate_ok {file : Sigma fun _ : String => SpoolFile} {c : Candidate} (h : candidate host file = .ok c) :
    c.name = file.1 ∧ c.Read host := by
  obtain ⟨entry, hparse, h⟩ := bind_ok h
  cases h
  exact ⟨rfl, file.2, hparse⟩

theorem candidates_ok {files : List (Sigma fun _ : String => SpoolFile)} {candidates : List Candidate}
    (h : files.mapM (candidate host) = .ok candidates) :
    candidates.map (·.name) = files.map (·.1) ∧ ∀ c ∈ candidates, c.Read host := by
  induction files generalizing candidates with
  | nil =>
    cases h
    exact ⟨rfl, List.forall_mem_nil _⟩
  | cons file rest ih =>
    rw [List.mapM_cons] at h
    obtain ⟨c, hc, h⟩ := bind_ok h
    obtain ⟨others, hothers, h⟩ := bind_ok h
    cases h
    obtain ⟨hname, hread⟩ := candidate_ok hc
    obtain ⟨hnames, hreads⟩ := ih hothers
    refine ⟨by rw [List.map_cons, List.map_cons, hname, hnames], ?_⟩
    intro other hother
    obtain rfl | hother := List.mem_cons.mp hother
    · exact hread
    · exact hreads other hother

theorem sheds_enforceCap (t : TracedSpool) (maxFiles maxBytes : Int) (clock : Clock) :
    Sheds t (enforceCap host maxFiles maxBytes clock t.spool).1 := by
  unfold enforceCap
  simp only
  split_ifs
  · exact fun _ => .refl
  split
  · exact fun _ => .refl
  · rename_i candidates hcandidates
    obtain ⟨hnames, hread⟩ := candidates_ok hcandidates
    have hperm := List.perm_insertionSort (fun a b : Candidate => notAfter host (a.time, a.key) (b.time, b.key)) candidates
    refine sheds_evict maxFiles maxBytes clock _ (fun c hc => hread c (hperm.mem_iff.mp hc)) ?_
    refine (listed_entryFiles t.spool).perm ?_
    rw [← hnames]
    exact (hperm.map _).symm

theorem steps_written (t : TracedSpool) (entry : SpoolEntry) (clock : Clock) {careful : Prop}
    (h : careful → entry.deliveryKey ∉ t.spool.lost) :
    Ledger.Steps careful t.ledger
      (t.written entry (t.spool.store (entryName entry.deliveryKey) (entry.file clock))).ledger := by
  rw [TracedSpool.ledger_written]
  exact .single (.put _ _ h)

theorem steps_attempt (t : TracedSpool) (entry : SpoolEntry) (outcome : SpoolEntryState) (error : Option String)
    (clock : Clock) :
    Ledger.Steps (t.careful (.recordAttempt entry outcome error clock) = true) t.ledger
      (t.next host (.recordAttempt entry outcome error clock)).ledger := by
  cases outcome with
  | delivered =>
    simp only [TracedSpool.next, recordAttempt, removeEntry]
    split_ifs
    · refine .single ?_
      show Ledger.Step _ t.ledger (t.removed entry.deliveryKey (t.spool.unlink (entryName entry.deliveryKey))).ledger
      rw [TracedSpool.ledger_removed]
      exact .deliver _ _
    · exact .refl
  | droppedFull =>
    simp only [TracedSpool.next, recordAttempt, removeEntry]
    split_ifs
    · refine .single ?_
      have hlost := @TracedSpool.ledger_dropped t _ entry.deliveryKey (gapRecord entry "dropped_full" clock) rfl
        (t.spool.file_unlink entry.deliveryKey) rfl
      refine Eq.subst (motive := Ledger.Step _ t.ledger) hlost.symm ?_
      exact .lose _ fun hcareful => by simpa [TracedSpool.careful, TracedSpool.ledger] using hcareful
    · exact .refl
  | spooled =>
    simp only [TracedSpool.next, recordAttempt, writeEntry]
    split_ifs
    · exact steps_written t _ clock fun hcareful => by simpa [TracedSpool.careful] using hcareful
    · exact .refl
  | failed =>
    simp only [TracedSpool.next, recordAttempt, writeEntry]
    split_ifs
    · exact steps_written t _ clock fun hcareful => by simpa [TracedSpool.careful] using hcareful
    · exact .refl

/-- Every call is a run of steps of the ledger, and a careful call of careful ones. -/
theorem steps_next (t : TracedSpool) (action : SpoolAction) :
    Ledger.Steps (t.careful action = true) t.ledger (t.next host action).ledger := by
  cases action with
  | writeEntry entry clock =>
    simp only [TracedSpool.next, writeEntry]
    split_ifs
    · exact steps_written t entry clock fun hcareful => by simpa [TracedSpool.careful] using hcareful
    · exact .refl
  | recordAttempt entry outcome error clock => exact steps_attempt t entry outcome error clock
  | readEntries limit clock =>
    simp only [TracedSpool.next, readEntries]
    split_ifs
    · exact .refl
    · exact sheds_readFiles clock _ (listed_entryFiles t.spool) _
  | enforceCap maxFiles maxBytes clock => exact sheds_enforceCap t maxFiles maxBytes clock _

/-! ### The account -/

theorem accounted_reachable {t : TracedSpool} (h : (spoolSystem host).Reachable t) : t.ledger.Accounted := by
  refine h.invariant (I := fun t => t.ledger.Accounted) ?_ fun before action _ _ haccounted hnext => ?_
  · intro start hstart
    obtain ⟨hspooled, hdelivered⟩ := hstart
    exact ⟨fun key text hgiven => by simp [TracedSpool.ledger, hspooled] at hgiven,
      fun key hkey => by simp [TracedSpool.ledger, hdelivered] at hkey⟩
  · cases hnext
    exact haccounted.steps (steps_next before action)

/-- The runs in which every call is careful. -/
def carefulSystem (host : SpoolHost) : System TracedSpool SpoolAction :=
  (spoolSystem host).restrict fun t action => t.careful action = true

theorem exclusive_reachable {t : TracedSpool} (h : (carefulSystem host).Reachable t) :
    t.ledger.Accounted ∧ t.ledger.Exclusive := by
  refine h.invariant (I := fun t => t.ledger.Accounted ∧ t.ledger.Exclusive) ?_
    fun before action _ _ hbefore hnext => ?_
  · intro start hstart
    refine ⟨accounted_reachable (System.Reachable.init (M := spoolSystem host) hstart), fun key _ hgiven => ?_⟩
    simp [TracedSpool.ledger, hstart.1] at hgiven
  · obtain ⟨hcareful, hnext⟩ := System.restrict_next hnext
    cases hnext
    have hsteps : Ledger.Steps (before.careful action = true) before.ledger (before.next host action).ledger :=
      steps_next before action
    exact ⟨hbefore.1.steps hsteps, hbefore.2.steps hbefore.1 hcareful hsteps⟩

/-- The entry waits in its file, as it was last written. -/
def TracedSpool.Pending (t : TracedSpool) (key : String) (entry : SpoolEntry) : Prop :=
  ∃ file, t.spool.file key = some file ∧ file.text = some entry.text

variable (host) in
/-- A key once spooled is pending with what was last written under it, removed after a
delivered attempt or named by a gap, and it is not both pending and removed. In careful
runs a gap names neither. -/
theorem spool_accounts :
    (∀ t, (spoolSystem host).Reachable t → ∀ key entry, t.spooled.lookup key = some entry →
      (t.Pending key entry ∨ key ∈ t.delivered ∨ key ∈ t.spool.lost) ∧
      ¬((t.spool.file key).isSome ∧ key ∈ t.delivered)) ∧
    ∀ t, (carefulSystem host).Reachable t → ∀ key entry, t.spooled.lookup key = some entry →
      (t.Pending key entry ∨ key ∈ t.delivered ∨ key ∈ t.spool.lost) ∧
      ¬((t.spool.file key).isSome ∧ key ∈ t.delivered) ∧
      ¬((t.spool.file key).isSome ∧ key ∈ t.spool.lost) ∧
      ¬(key ∈ t.delivered ∧ key ∈ t.spool.lost) := by
  have hone : ∀ t : TracedSpool, t.ledger.Accounted → ∀ key entry, t.spooled.lookup key = some entry →
      (t.Pending key entry ∨ key ∈ t.delivered ∨ key ∈ t.spool.lost) ∧
      ¬((t.spool.file key).isSome ∧ key ∈ t.delivered) := by
    intro t haccounted key entry hspooled
    have hgiven : t.ledger.given key = some (some entry.text) := by simp [TracedSpool.ledger, hspooled]
    refine ⟨?_, ?_⟩
    · obtain hwaiting | hleft := haccounted.account key (some entry.text) hgiven
      · exact Or.inl (Option.map_eq_some_iff.mp hwaiting)
      · exact Or.inr hleft
    · intro hboth
      have hgone : (t.spool.file key).map (·.text) = none := haccounted.gone key hboth.2
      rw [Option.map_eq_none_iff] at hgone
      rw [hgone] at hboth
      cases hboth.1
  refine ⟨fun t ht => hone t (accounted_reachable ht), fun t ht key entry hspooled => ?_⟩
  obtain ⟨haccounted, hexclusive⟩ := exclusive_reachable ht
  obtain ⟨hsome, hdelivered⟩ := hone t haccounted key entry hspooled
  have hgiven : (t.ledger.given key).isSome := by simp [TracedSpool.ledger, hspooled]
  refine ⟨hsome, hdelivered, fun hboth => ?_, fun hboth => (hexclusive key hboth.2 hgiven).2 hboth.1⟩
  have hgone : (t.spool.file key).map (·.text) = none := (hexclusive key hboth.2 hgiven).1
  rw [Option.map_eq_none_iff] at hgone
  rw [hgone] at hboth
  cases hboth.1

/-! ### A capture spooled again after its loss -/

/-- Of the texts of a run, the parse of one. -/
def exampleHost (parsed : List (String × Json)) : SpoolHost where
  toHost := asciiHost [] []
  jsonLoads text := .ok (parsed.lookup text)
  toFloat
    | .float x => .ok x
    | _ => .error .overflowError
  toInt
    | .int n => .ok n
    | _ => .error .valueError
  floatLt a b := a.trunc < b.trunc

def exampleEntry : SpoolEntry := ⟨"0123456789abcdef", [], ⟨"1.0", 1, false⟩, 0, none, "spooled"⟩

def exampleClock : Clock := ⟨⟨"2.0", 2, false⟩, fun _ => ""⟩

def exampleParse : Json :=
  .obj [("attempts", .int 0), ("body", .obj []), ("created_at", .float ⟨"1.0", 1, false⟩),
    ("delivery_key", .str "0123456789abcdef"), ("last_error", .null), ("schema_version", .str "v1"),
    ("state", .str "spooled")]

def exampleCalls : List SpoolAction := [.writeEntry exampleEntry exampleClock, .enforceCap 0 0 exampleClock]

def exampleSpoolHost : SpoolHost := exampleHost [(exampleEntry.text, exampleParse)]

/-- A write and an eviction. -/
def exampleEvicted : Option TracedSpool := (carefulSystem exampleSpoolHost).run ⟨⟨∅, []⟩, ∅, []⟩ exampleCalls

/-- The same, and the retry by a caller that still has the entry. -/
def exampleRetried : Option TracedSpool :=
  (spoolSystem exampleSpoolHost).run ⟨⟨∅, []⟩, ∅, []⟩
    (exampleCalls ++ [.recordAttempt exampleEntry .spooled none exampleClock])

theorem exampleRetried_both : ∃ t, (spoolSystem exampleSpoolHost).Reachable t ∧
    (t.spooled.lookup exampleEntry.deliveryKey).isSome ∧ (t.spool.file exampleEntry.deliveryKey).isSome ∧
    exampleEntry.deliveryKey ∈ t.spool.lost := by
  have hboth : exampleRetried.any (fun t => (t.spooled.lookup exampleEntry.deliveryKey).isSome &&
      (t.spool.file exampleEntry.deliveryKey).isSome && exampleEntry.deliveryKey ∈ t.spool.lost) = true := by
    decide +kernel
  obtain ⟨t, ht, hboth⟩ := (Option.any_eq_true _ _).mp hboth
  simp only [Bool.and_eq_true, decide_eq_true_eq] at hboth
  exact ⟨t, System.Reachable.run (.init ⟨rfl, rfl⟩) ht, hboth.1.1, hboth.1.2, hboth.2⟩

theorem spooled_after_loss : ¬ ∀ t, (spoolSystem exampleSpoolHost).Reachable t → ∀ key entry,
    t.spooled.lookup key = some entry →
      (t.Pending key entry ∨ key ∈ t.delivered ∨ key ∈ t.spool.lost) ∧
      ¬((t.spool.file key).isSome ∧ key ∈ t.delivered) ∧
      ¬((t.spool.file key).isSome ∧ key ∈ t.spool.lost) ∧
      ¬(key ∈ t.delivered ∧ key ∈ t.spool.lost) := by
  intro hall
  obtain ⟨t, hreachable, hspooled, hfile, hlost⟩ := exampleRetried_both
  obtain ⟨entry, hentry⟩ := Option.isSome_iff_exists.mp hspooled
  exact (hall t hreachable _ entry hentry).2.2.1 ⟨hfile, hlost⟩

/-- Both runs: a retry leaves the key pending or lost, an eviction only lost. -/
theorem spool_accounts_evicted :
    (∃ t entry, (spoolSystem exampleSpoolHost).Reachable t ∧ t.spooled.lookup exampleEntry.deliveryKey = some entry ∧
      (t.Pending exampleEntry.deliveryKey entry ∨ exampleEntry.deliveryKey ∈ t.delivered ∨
        exampleEntry.deliveryKey ∈ t.spool.lost)) ∧
    ∃ t, exampleEvicted = some t ∧ exampleEntry.deliveryKey ∈ t.spool.lost ∧
      ¬(exampleEntry.deliveryKey ∈ t.delivered ∧ exampleEntry.deliveryKey ∈ t.spool.lost) := by
  refine ⟨?_, ?_⟩
  · obtain ⟨t, hreachable, hspooled, _, _⟩ := exampleRetried_both
    obtain ⟨entry, hentry⟩ := Option.isSome_iff_exists.mp hspooled
    exact ⟨t, entry, hreachable, hentry, ((spool_accounts exampleSpoolHost).1 t hreachable _ entry hentry).1⟩
  · have hevicted : exampleEvicted.any (fun t => (t.spooled.lookup exampleEntry.deliveryKey).isSome &&
        exampleEntry.deliveryKey ∈ t.spool.lost) = true := by decide +kernel
    obtain ⟨t, ht, hevicted⟩ := (Option.any_eq_true _ _).mp hevicted
    simp only [Bool.and_eq_true, decide_eq_true_eq] at hevicted
    obtain ⟨entry, hentry⟩ := Option.isSome_iff_exists.mp hevicted.1
    have hreachable : (carefulSystem exampleSpoolHost).Reachable t := by
      refine System.Reachable.run (.init ?_) ht
      exact ⟨rfl, rfl⟩
    exact ⟨t, ht, hevicted.2, ((spool_accounts exampleSpoolHost).2 t hreachable _ entry hentry).2.2.2⟩

end OpenTimeline.Capture
