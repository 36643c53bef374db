import OpenTimeline.Library.Joined
import OpenTimeline.Pilot.Allocation
import OpenTimeline.Planning.Jobs

/-! Keys that are digests of joined texts.

An episode, a stratum, a planning request and a delivery are known by the digest of their components, joined with a
bar between one and the next. The components are free texts, and nothing is done about a bar in one of them: what is
on the left of it can as well be the end of the component before. So a thing has its key to itself exactly where none
of its components has a bar, and none that may be left out is (`keys_own_iff`). -/
namespace OpenTimeline
open Library

/-! ### The components -/

structure EpisodeComponents where
  workspaceId : String
  subjectUserId : String
  projectId : Option String
  sessionId : String
  objectiveHash : Option String
  cancelEpoch : Int

structure StratumComponents where
  workspaceId : String
  subjectUserId : String
  projectId : Option String
  decisionFamily : String

structure PlanningComponents where
  jobKind : String
  workspaceId : String
  ownerId : String
  taskId : String
  inputRevision : String

structure DeliveryComponents where
  hostSessionId : String
  promptRef : String
  contentSha256 : String

/-- `episode_key`, which the pilot takes as it is. -/
def episodeKey (host : Pilot.PilotHost) (c : EpisodeComponents) : String :=
  Pilot.computeEpisodeKey host c.workspaceId c.subjectUserId c.projectId c.sessionId c.objectiveHash c.cancelEpoch

def stratumKey (host : Pilot.PilotHost) (c : StratumComponents) : String :=
  Pilot.stratumIdFor host c.workspaceId c.subjectUserId c.projectId c.decisionFamily

/-- `planning_idempotency_key`, of a request with these components. -/
def planningKey (host : Host) (c : PlanningComponents) : String :=
  Planning.planningIdempotencyKey host {
    workspaceId := c.workspaceId
    ownerId := c.ownerId
    sessionId := ""
    taskId := c.taskId
    jobKind := c.jobKind
    inputRevision := c.inputRevision
    contractRevision := 0
    objectiveHash := none
    objectiveText := ""
    scopeJson := [] }

/-- `compute_delivery_key` -/
def computeDeliveryKey (host : Host) (c : DeliveryComponents) : String :=
  host.sha256Hex (c.hostSessionId ++ "|" ++ c.promptRef ++ "|" ++ c.contentSha256)

/-! ### Telling things apart -/

/-- Some digest gives the two different keys, so their keys are digests of different texts. -/
def ToldApart {H T : Type} (key : H → T → String) (t t' : T) : Prop := ∃ host, key host t ≠ key host t'

/-- The thing is told apart from every other. -/
def HasOwnKey {H T : Type} (key : H → T → String) (t : T) : Prop := ∀ t', t' ≠ t → ToldApart key t' t

/-- No bar in it. -/
def IsPlain (text : String) : Prop := '|' ∉ text.toList

instance (text : String) : Decidable (IsPlain text) := inferInstanceAs (Decidable (_ ∉ _))

/-- What may be left out is not, and is not empty. -/
def IsGiven (text : Option String) : Prop := text.getD "" ≠ ""

instance (text : Option String) : Decidable (IsGiven text) := inferInstanceAs (Decidable (_ ≠ _))

/-- A key is a digest of a text, and texts have digests that differ. -/
theorem toldApart_iff {H T : Type} {key : H → T → String} {digest : H → String → String} (raw : T → String)
    (hkey : ∀ host t, key host t = digest host (raw t))
    (hdigest : ∀ a b : String, a ≠ b → ∃ host, digest host a ≠ digest host b) {t t' : T} :
    ToldApart key t t' ↔ raw t ≠ raw t' := by
  constructor
  · rintro ⟨host, hne⟩ hsame
    exact hne (by rw [hkey, hkey, hsame])
  · intro hne
    obtain ⟨host, hdigests⟩ := hdigest _ _ hne
    exact ⟨host, by rwa [hkey, hkey]⟩

/-- A host whose digests tell one text from the others. -/
def tellingHost (text : String) : Host := {asciiHost [] [] with sha256Hex := fun t => if t = text then "a" else "b"}

theorem digest32_tells {a b : String} (h : a ≠ b) :
    ∃ host : Pilot.PilotHost, Pilot.digest32 host a ≠ Pilot.digest32 host b := by
  refine ⟨{tellingHost a with hmacHex := fun _ _ => ""}, ?_⟩
  simp only [Pilot.digest32, tellingHost, if_true, if_neg (Ne.symm h)]
  decide

theorem sha256Hex_tells (n : Nat) {a b : String} (h : a ≠ b) :
    ∃ host : Host, String.ofList ((host.sha256Hex a).toList.take (n + 1)) ≠
      String.ofList ((host.sha256Hex b).toList.take (n + 1)) := by
  refine ⟨tellingHost a, ?_⟩
  simp only [tellingHost, if_true, if_neg (Ne.symm h)]
  simp

/-! ### Texts joined with a bar -/

/-- Two texts or more are joined as no others of their number are exactly where all are plain. -/
theorem joinBar_own_iff {texts : List String} (htwo : 2 ≤ texts.length) :
    (∀ texts' : List String, texts'.length = texts.length → "|".intercalate texts' = "|".intercalate texts →
      texts' = texts) ↔ ∀ text ∈ texts, IsPlain text := by
  have hjoin : ∀ l l' : List String, "|".intercalate l = "|".intercalate l' ↔
      ['|'].intercalate (l.map String.toList) = ['|'].intercalate (l'.map String.toList) := by
    intro l l'
    rw [← String.toList_inj, String.toList_intercalate, String.toList_intercalate]
    rfl
  have hplain : (∀ text ∈ texts, IsPlain text) ↔ ∀ part ∈ texts.map String.toList, '|' ∉ part := by
    rw [List.forall_mem_map]
    rfl
  rw [hplain, ← joined_own_iff (by simpa using htwo)]
  constructor
  · intro hown parts hlength hjoined
    have hparts : (parts.map String.ofList).map String.toList = parts := by
      rw [List.map_map]
      exact (List.map_congr_left fun part _ => String.toList_ofList).trans (List.map_id' _)
    rw [← hparts] at hjoined ⊢
    rw [hown _ (by simpa using hlength) ((hjoin _ _).mpr hjoined)]
  · intro hown texts' hlength hjoined
    exact List.map_injective_iff.mpr (fun a b => String.toList_inj.mp)
      (hown _ (by simpa using hlength) ((hjoin _ _).mp hjoined))

/-- A decimal number is plain. -/
theorem isPlain_toString (n : Int) : IsPlain (toString n) := by
  have hdigits : ∀ m : Nat, '|' ∉ m.repr.toList := by
    intro m hbar
    rw [Nat.toList_repr] at hbar
    exact absurd (Nat.isDigit_of_mem_toDigits (by decide) (by decide) hbar) (by decide)
  cases n with
  | ofNat m => exact hdigits m
  | negSucc m =>
    show '|' ∉ ("-" ++ (m + 1).repr).toList
    rw [String.toList_append, List.mem_append, not_or]
    exact ⟨by decide, hdigits (m + 1)⟩

/-! ### Own keys -/

/-- Things with `n` texts, and others that are plain behind them, that are joined and digested. -/
structure IsJoined {H T : Type} (key : H → T → String) (n : Nat) (texts behind : T → List String)
    (digest : H → String → String) : Prop where
  key_eq : ∀ host t, key host t = digest host ("|".intercalate (texts t ++ behind t))
  tells : ∀ a b : String, a ≠ b → ∃ host, digest host a ≠ digest host b
  length_texts : ∀ t, (texts t).length = n
  length_behind : ∀ t t', (behind t).length = (behind t').length
  plain_behind : ∀ t, ∀ text ∈ behind t, IsPlain text
  /-- any texts are those of a thing with the same behind them -/
  full : ∀ t (l : List String), l.length = n → ∃ t', texts t' = l ∧ behind t' = behind t

namespace IsJoined
variable {H T : Type} {key : H → T → String} {n : Nat} {texts behind : T → List String} {digest : H → String → String}

theorem hasOwnKey_iff_raw (k : IsJoined key n texts behind digest) {t : T} :
    HasOwnKey key t ↔ ∀ t', "|".intercalate (texts t' ++ behind t') = "|".intercalate (texts t ++ behind t) → t' = t := by
  refine forall_congr' fun t' => ?_
  rw [toldApart_iff (fun t => "|".intercalate (texts t ++ behind t)) k.key_eq k.tells]
  exact not_imp_not

/-- Where the texts in front are joined alike, so is all of it. -/
theorem joined_behind {l l' behind : List String} (hlength : l'.length = l.length)
    (h : "|".intercalate l' = "|".intercalate l) :
    "|".intercalate (l' ++ behind) = "|".intercalate (l ++ behind) := by
  rcases eq_or_ne l [] with rfl | hl
  · rw [List.eq_nil_of_length_eq_zero hlength]
  have hl' : l' ≠ [] := by
    rintro rfl
    exact hl (List.eq_nil_of_length_eq_zero hlength.symm)
  rcases eq_or_ne behind [] with rfl | hbehind
  · rw [List.append_nil, List.append_nil, h]
  · rw [String.intercalate_append_of_ne_nil hl' hbehind, String.intercalate_append_of_ne_nil hl hbehind, h]

/-- A thing has its own key where its texts are plain and are no other's. -/
theorem hasOwnKey_iff (k : IsJoined key n texts behind digest) (hn : 2 ≤ n) {t : T} :
    HasOwnKey key t ↔ (∀ text ∈ texts t, IsPlain text) ∧
      ∀ t', texts t' = texts t → behind t' = behind t → t' = t := by
  rw [k.hasOwnKey_iff_raw]
  constructor
  · intro hown
    constructor
    · refine (joinBar_own_iff (hn.trans (k.length_texts t).ge)).mp fun l hlength hjoined => ?_
      obtain ⟨t', htexts, hbehind⟩ := k.full t l (hlength.trans (k.length_texts t))
      rw [← htexts] at hlength hjoined ⊢
      rw [hown t' (by rw [hbehind]; exact joined_behind hlength hjoined)]
    · intro t' htexts hbehind
      exact hown t' (by rw [htexts, hbehind])
  · rintro ⟨hplain, hfibre⟩ t' hjoined
    have hlength : (texts t').length = (texts t).length := (k.length_texts t').trans (k.length_texts t).symm
    have htwo : 2 ≤ (texts t ++ behind t).length := by
      rw [List.length_append, k.length_texts]
      omega
    have hall : ∀ text ∈ texts t ++ behind t, IsPlain text := by
      intro text htext
      rcases List.mem_append.mp htext with hfront | hback
      · exact hplain text hfront
      · exact k.plain_behind t text hback
    have hsame := (joinBar_own_iff htwo).mpr hall (texts t' ++ behind t')
      (by rw [List.length_append, List.length_append, hlength, k.length_behind t' t]) hjoined
    obtain ⟨htexts, hbehind⟩ := List.append_inj hsame hlength
    exact hfibre t' htexts hbehind

end IsJoined

/-! ### The four keys -/

def EpisodeComponents.texts (c : EpisodeComponents) : List String :=
  [c.workspaceId, c.subjectUserId, c.projectId.getD "", c.sessionId, c.objectiveHash.getD ""]

def StratumComponents.texts (c : StratumComponents) : List String :=
  [c.workspaceId, c.subjectUserId, c.projectId.getD "", c.decisionFamily]

def PlanningComponents.texts (c : PlanningComponents) : List String :=
  [c.jobKind, c.workspaceId, c.ownerId, c.taskId, c.inputRevision]

def DeliveryComponents.texts (c : DeliveryComponents) : List String := [c.hostSessionId, c.promptRef, c.contentSha256]

theorem episodeKey_isJoined :
    IsJoined episodeKey 5 EpisodeComponents.texts (fun c => [toString c.cancelEpoch]) Pilot.digest32 where
  key_eq _ _ := rfl
  tells _ _ := digest32_tells
  length_texts _ := rfl
  length_behind _ _ := rfl
  plain_behind c := by
    intro text htext
    rw [List.mem_singleton.mp htext]
    exact isPlain_toString _
  full c l hl := by
    obtain ⟨w, s, p, t, o, rfl⟩ : ∃ w s p t o, l = [w, s, p, t, o] := by
      rcases l with _ | ⟨w, _ | ⟨s, _ | ⟨p, _ | ⟨t, _ | ⟨o, _ | ⟨x, l⟩⟩⟩⟩⟩⟩ <;> simp at hl ⊢
    exact ⟨⟨w, s, some p, t, some o, c.cancelEpoch⟩, rfl, rfl⟩

theorem stratumKey_isJoined : IsJoined stratumKey 4 StratumComponents.texts (fun _ => []) Pilot.digest32 where
  key_eq host c := by
    simp [stratumKey, Pilot.stratumIdFor, StratumComponents.texts, String.append_assoc]
  tells _ _ := digest32_tells
  length_texts _ := rfl
  length_behind _ _ := rfl
  plain_behind _ _ := by simp
  full c l hl := by
    obtain ⟨w, s, p, f, rfl⟩ : ∃ w s p f, l = [w, s, p, f] := by
      rcases l with _ | ⟨w, _ | ⟨s, _ | ⟨p, _ | ⟨f, _ | ⟨x, l⟩⟩⟩⟩⟩ <;> simp at hl ⊢
    exact ⟨⟨w, s, some p, f⟩, rfl, rfl⟩

theorem planningKey_isJoined : IsJoined planningKey 5 PlanningComponents.texts (fun _ => [])
    fun host text => String.ofList ((host.sha256Hex text).toList.take 40) where
  key_eq _ _ := rfl
  tells _ _ := sha256Hex_tells 39
  length_texts _ := rfl
  length_behind _ _ := rfl
  plain_behind _ _ := by simp
  full c l hl := by
    obtain ⟨j, w, o, t, r, rfl⟩ : ∃ j w o t r, l = [j, w, o, t, r] := by
      rcases l with _ | ⟨j, _ | ⟨w, _ | ⟨o, _ | ⟨t, _ | ⟨r, _ | ⟨x, l⟩⟩⟩⟩⟩⟩ <;> simp at hl ⊢
    exact ⟨⟨j, w, o, t, r⟩, rfl, rfl⟩

theorem computeDeliveryKey_isJoined : IsJoined computeDeliveryKey 3 DeliveryComponents.texts (fun _ => [])
    fun host text => host.sha256Hex text where
  key_eq host c := by
    simp [computeDeliveryKey, DeliveryComponents.texts, String.append_assoc]
  tells a b hne := by
    obtain ⟨host, hdigests⟩ := sha256Hex_tells 0 hne
    exact ⟨host, fun hsame => hdigests (by rw [hsame])⟩
  length_texts _ := rfl
  length_behind _ _ := rfl
  plain_behind _ _ := by simp
  full c l hl := by
    obtain ⟨h, p, s, rfl⟩ := List.length_eq_three.mp hl
    exact ⟨⟨h, p, s⟩, rfl, rfl⟩

theorem eq_of_getD_eq {text text' : Option String} (hgiven : IsGiven text) (h : text'.getD "" = text.getD "") :
    text' = text := by
  unfold IsGiven at hgiven
  cases text with
  | none => exact absurd rfl hgiven
  | some s =>
    cases text' with
    | none => exact absurd h.symm hgiven
    | some s' => exact congrArg some h

/-- What stands for the same where it is not given. -/
def swapped : Option String → Option String
  | none => some ""
  | some _ => none

theorem getD_swapped {text : Option String} (h : ¬ IsGiven text) : (swapped text).getD "" = text.getD "" := by
  cases text with
  | none => rfl
  | some s => exact (not_not.mp h).symm

theorem swapped_ne (text : Option String) : swapped text ≠ text := by
  cases text <;> simp [swapped]

theorem episodeKey_own_iff {c : EpisodeComponents} :
    HasOwnKey episodeKey c ↔ (∀ text ∈ c.texts, IsPlain text) ∧ IsGiven c.projectId ∧ IsGiven c.objectiveHash := by
  rw [episodeKey_isJoined.hasOwnKey_iff (by decide)]
  refine and_congr_right fun _ => ⟨fun hfibre => ⟨?_, ?_⟩, ?_⟩
  · by_contra hleft
    have hsame := hfibre {c with projectId := swapped c.projectId} (by simp [EpisodeComponents.texts, getD_swapped hleft]) rfl
    exact swapped_ne _ (congrArg EpisodeComponents.projectId hsame)
  · by_contra hleft
    have hsame := hfibre {c with objectiveHash := swapped c.objectiveHash}
      (by simp [EpisodeComponents.texts, getD_swapped hleft]) rfl
    exact swapped_ne _ (congrArg EpisodeComponents.objectiveHash hsame)
  · rintro ⟨hproject, hobjective⟩ ⟨w, s, p, t, o, e⟩ htexts hbehind
    obtain ⟨w', s', p', t', o', e'⟩ := c
    simp only [EpisodeComponents.texts, List.cons.injEq, and_true] at htexts
    obtain ⟨rfl, rfl, hp, rfl, ho⟩ := htexts
    obtain rfl := eq_of_getD_eq hproject hp
    obtain rfl := eq_of_getD_eq hobjective ho
    obtain rfl : e = e' := Int.repr_injective (List.cons.inj hbehind).1
    rfl

theorem stratumKey_own_iff {c : StratumComponents} :
    HasOwnKey stratumKey c ↔ (∀ text ∈ c.texts, IsPlain text) ∧ IsGiven c.projectId := by
  rw [stratumKey_isJoined.hasOwnKey_iff (by decide)]
  refine and_congr_right fun _ => ⟨fun hfibre => ?_, ?_⟩
  · by_contra hleft
    have hsame := hfibre {c with projectId := swapped c.projectId} (by simp [StratumComponents.texts, getD_swapped hleft]) rfl
    exact swapped_ne _ (congrArg StratumComponents.projectId hsame)
  · rintro hproject ⟨w, s, p, f⟩ htexts -
    obtain ⟨w', s', p', f'⟩ := c
    simp only [StratumComponents.texts, List.cons.injEq, and_true] at htexts
    obtain ⟨rfl, rfl, hp, rfl⟩ := htexts
    obtain rfl := eq_of_getD_eq hproject hp
    rfl

theorem planningKey_own_iff {c : PlanningComponents} : HasOwnKey planningKey c ↔ ∀ text ∈ c.texts, IsPlain text := by
  rw [planningKey_isJoined.hasOwnKey_iff (by decide)]
  refine and_iff_left ?_
  rintro ⟨j, w, o, t, r⟩ htexts -
  simp only [PlanningComponents.texts, List.cons.injEq, and_true] at htexts
  obtain ⟨rfl, rfl, rfl, rfl, rfl⟩ := htexts
  rfl

theorem computeDeliveryKey_own_iff {c : DeliveryComponents} :
    HasOwnKey computeDeliveryKey c ↔ ∀ text ∈ c.texts, IsPlain text := by
  rw [computeDeliveryKey_isJoined.hasOwnKey_iff (by decide)]
  refine and_iff_left ?_
  rintro ⟨h, p, s⟩ htexts -
  simp only [DeliveryComponents.texts, List.cons.injEq, and_true] at htexts
  obtain ⟨rfl, rfl, rfl⟩ := htexts
  rfl

/-- What has its key to itself has no bar in any of its texts, and names its project and its objective where it has
them. -/
theorem keys_own_iff (episode : EpisodeComponents) (stratum : StratumComponents) (planning : PlanningComponents)
    (delivery : DeliveryComponents) :
    (HasOwnKey episodeKey episode ↔
      (∀ text ∈ episode.texts, IsPlain text) ∧ IsGiven episode.projectId ∧ IsGiven episode.objectiveHash) ∧
    (HasOwnKey stratumKey stratum ↔ (∀ text ∈ stratum.texts, IsPlain text) ∧ IsGiven stratum.projectId) ∧
    (HasOwnKey planningKey planning ↔ ∀ text ∈ planning.texts, IsPlain text) ∧
    (HasOwnKey computeDeliveryKey delivery ↔ ∀ text ∈ delivery.texts, IsPlain text) :=
  ⟨episodeKey_own_iff, stratumKey_own_iff, planningKey_own_iff, computeDeliveryKey_own_iff⟩

/-- A bar at the end of one text or at the start of the next: each key is one of two things'. -/
theorem bars_share_keys :
    (¬ ∀ c c' : EpisodeComponents, c ≠ c' → ToldApart episodeKey c c') ∧
    (¬ ∀ c c' : StratumComponents, c ≠ c' → ToldApart stratumKey c c') ∧
    (¬ ∀ c c' : PlanningComponents, c ≠ c' → ToldApart planningKey c c') ∧
    ¬ ∀ c c' : DeliveryComponents, c ≠ c' → ToldApart computeDeliveryKey c c' := by
  refine ⟨fun h => ?_, fun h => ?_, fun h => ?_, fun h => ?_⟩
  · obtain ⟨host, hne⟩ := h ⟨"w", "u", some "p", "a|b", some "c", 0⟩ ⟨"w", "u", some "p|a", "b", some "c", 0⟩ (by simp)
    exact hne rfl
  · obtain ⟨host, hne⟩ := h ⟨"w", "u", some "p|q", "f"⟩ ⟨"w", "u|p", some "q", "f"⟩ (by simp)
    exact hne rfl
  · obtain ⟨host, hne⟩ := h ⟨"k", "w", "o", "a|b", "r"⟩ ⟨"k", "w", "o|a", "b", "r"⟩ (by simp)
    exact hne rfl
  · obtain ⟨host, hne⟩ := h ⟨"s|1", "p", "d"⟩ ⟨"s", "1|p", "d"⟩ (by simp)
    exact hne rfl

end OpenTimeline
