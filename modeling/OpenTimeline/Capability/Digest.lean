import OpenTimeline.Capability.Authority

/-! What an action digest binds.

The text an operation is digested as can be taken apart again: two operations with one text
have one normal form (`eq_of_digestPayload`). The normal form drops what is not part of a
token, cuts long text and replaces what looks like a secret, so it is the operation up to
letter case and blanks only where the operation is plain (`digest_binds`). -/
namespace OpenTimeline.Capability
open Library Directive

variable (host : Host)

/-! ### Reading the text -/

/-- The canonical text of the arguments. -/
def Operation.canonicalArguments (op : Operation) : String := jsonDumps (.obj op.arguments)

/-- The entries of the text, by key. -/
theorem canonicalJson_operation (capability action resource arguments : Json) :
    canonicalJson (.obj [("capability", capability), ("action", action), ("resource", resource), ("arguments", arguments)]) =
      "\x7b" ++ ",".intercalate ([("action", action), ("arguments", arguments), ("capability", capability),
        ("resource", resource)].map fun entry => jsonString entry.1 ++ ":" ++ canonicalJson entry.2) ++ "\x7d" := by
  simp only [canonicalJson, canonicalFields, List.insertionSort, List.foldr, List.orderedInsert, String.reduceLE, ↓reduceIte,
    List.map]

/-- The text up to the capability. -/
def digestHead (action : String) (arguments : Payload) : List Char :=
  '\x7b' :: ((asciiString "action").toList ++ ':' :: ((asciiString action).toList ++ ',' ::
    ((asciiString "arguments").toList ++ ':' :: ((jsonDumps (.obj arguments)).toList ++ ',' ::
      (asciiString "capability").toList))))

theorem toList_digestPayload (capability action resource : String) (arguments : Payload) :
    (digestPayload capability action resource arguments).toList =
      (((digestHead action arguments ++ ':' :: (asciiString capability).toList) ++ ',' :: (asciiString "resource").toList) ++
        ':' :: (asciiString resource).toList) ++ ['\x7d'] := by
  have hstr : ∀ text, canonicalJson (.str text) = jsonString text := fun _ => rfl
  have hopen : "\x7b".toList.flatMap escapeNonAscii = ['\x7b'] := by decide
  have hcolon : ":".toList.flatMap escapeNonAscii = [':'] := by decide
  have hcomma : ",".toList.flatMap escapeNonAscii = [','] := by decide
  have hclose : "\x7d".toList.flatMap escapeNonAscii = ['\x7d'] := by decide
  rw [digestPayload, jsonDumps, canonicalJson_operation, String.toList_ofList]
  simp only [hstr, hopen, hcolon, hcomma, hclose, List.map, String.intercalate_cons_cons, String.intercalate_singleton,
    String.toList_append, List.flatMap_append, jsonString_escaped, digestHead, jsonDumps, String.toList_ofList,
    List.append_assoc, List.cons_append, List.nil_append]

theorem eq_of_digestPayload {capability capability' action action' resource resource' : String} {arguments arguments' : Payload}
    (h : digestPayload capability action resource arguments = digestPayload capability' action' resource' arguments') :
    capability = capability' ∧ action = action' ∧ resource = resource' ∧
      jsonDumps (.obj arguments) = jsonDumps (.obj arguments') := by
  have h := congrArg String.toList h
  rw [toList_digestPayload, toList_digestPayload] at h
  obtain ⟨h, hresource⟩ := asciiString_last (List.append_cancel_right h)
  obtain ⟨h, hcapability⟩ := asciiString_last (List.append_cancel_right h)
  have h := List.tail_eq_of_cons_eq (List.append_cancel_left (List.tail_eq_of_cons_eq h))
  obtain ⟨haction, h⟩ := prefixFree_asciiString _ _ _ _ h
  have h := List.tail_eq_of_cons_eq (List.append_cancel_left (List.tail_eq_of_cons_eq h))
  exact ⟨hcapability, haction, hresource, String.toList_inj.mp (List.append_cancel_right h)⟩

/-! ### Normal forms -/

/-- Two operations are brought to one normal form. -/
def SameForm (op op' : Operation) : Prop :=
  normalizeCapability host op.capability = normalizeCapability host op'.capability ∧
  normalizeAction host op.action = normalizeAction host op'.action ∧
  normalizeResource op.resource = normalizeResource op'.resource ∧
  jsonDumps (.obj op.arguments) = jsonDumps (.obj op'.arguments)

/-- The text an operation is digested as. -/
def digestText (op : Operation) : String :=
  digestPayload (normalizeCapability host op.capability) (normalizeAction host op.action) (normalizeResource op.resource)
    op.arguments

/-- The digest tells the texts of two operations apart. -/
def ToldApart (op op' : Operation) : Prop :=
  host.sha256Hex (digestText host op) = host.sha256Hex (digestText host op') → digestText host op = digestText host op'

/-- Nothing of the operation is dropped, cut or replaced. -/
structure Plain (op : Operation) : Prop where
  capability : ∀ c ∈ (host.lower (strip op.capability)).toList, isActionToken c = true
  capabilityLength : (host.lower (strip op.capability)).toList.length ≤ 80
  action : ∀ c ∈ (host.lower (strip op.action)).toList, isActionToken c = true
  actionLength : (host.lower (strip op.action)).toList.length ≤ 80
  actionEnds : Trimmed (· = '_') (host.lower (strip op.action)).toList
  resourceLength : (collapse op.resource).toList.length ≤ 500
  resourceSecrets : secretFree (collapse op.resource) = true

/-- The operations are one up to letter case and blanks. -/
def SameUpToCase (op op' : Operation) : Prop :=
  host.lower (strip op.capability) = host.lower (strip op'.capability) ∧
  host.lower (strip op.action) = host.lower (strip op'.action) ∧
  host.lower (collapse op.resource) = host.lower (collapse op'.resource) ∧
  jsonDumps (.obj op.arguments) = jsonDumps (.obj op'.arguments)

variable {host} {op op' : Operation}

theorem sameForm_of_digestText (h : digestText host op = digestText host op') : SameForm host op op' := by
  obtain ⟨hcapability, haction, hresource, harguments⟩ := eq_of_digestPayload h
  exact ⟨hcapability, haction, hresource, harguments⟩

theorem SameForm.digestText (h : SameForm host op op') : digestText host op = digestText host op' := by
  obtain ⟨hcapability, haction, hresource, harguments⟩ := h
  rw [← String.toList_inj, Capability.digestText, Capability.digestText, toList_digestPayload, toList_digestPayload,
    digestHead, digestHead, hcapability, haction, hresource, harguments]

theorem digest_iff (htold : ToldApart host op op') : (normalizeCapabilityOperation host op).actionDigest =
    (normalizeCapabilityOperation host op').actionDigest ↔ SameForm host op op' := by
  constructor
  · intro h
    exact sameForm_of_digestText (htold h)
  · intro h
    exact congrArg host.sha256Hex h.digestText

/-! ### Plain operations -/

theorem replaceRuns_tokens {cs : List Char} (h : ∀ c ∈ cs, isActionToken c = true) : replaceRuns false cs = cs := by
  induction cs with
  | nil => rfl
  | cons c rest ih =>
    rw [replaceRuns, if_pos (h c (List.mem_cons_self ..)), ih fun d hd => h d (List.mem_cons_of_mem _ hd)]

namespace Plain
variable (h : Plain host op)
include h

theorem normalizeCapability : normalizeCapability host op.capability = host.lower (strip op.capability) := by
  rw [Capability.normalizeCapability, List.filter_eq_self.mpr h.capability, List.take_of_length_le h.capabilityLength,
    String.ofList_toList]

theorem normalizeAction : normalizeAction host op.action = host.lower (strip op.action) := by
  rw [Capability.normalizeAction, replaceRuns_tokens h.action, h.actionEnds.stripChars,
    List.take_of_length_le h.actionLength, String.ofList_toList]

theorem normalizeResource : normalizeResource op.resource = collapse op.resource := by
  have hclip : clip op.resource 500 = collapse op.resource := by
    rw [clip, List.take_of_length_le h.resourceLength, String.ofList_toList, strip_collapse]
  rw [Capability.normalizeResource, redactControlText, hclip, redactText_secretFree h.resourceSecrets]
  exact strip_collapse _

end Plain

theorem SameForm.sameUpToCase (h : SameForm host op op') (hop : Plain host op) (hop' : Plain host op') :
    SameUpToCase host op op' := by
  obtain ⟨hcapability, haction, hresource, harguments⟩ := h
  rw [hop.normalizeCapability, hop'.normalizeCapability] at hcapability
  rw [hop.normalizeAction, hop'.normalizeAction] at haction
  rw [hop.normalizeResource, hop'.normalizeResource] at hresource
  exact ⟨hcapability, haction, congrArg host.lower hresource, harguments⟩

/-! ### What a grant binds -/

variable (host) in
/-- Two operations have one digest, where it tells their texts apart, just where they have one normal
form, and plain ones with one normal form are one operation up to letter case and blanks; a
consumption that is authorized is for an operation with the digest of the one its grant was
issued for, and so of its normal form. -/
theorem digest_binds (settings : Settings) :
    (∀ op op', ToldApart host op op' →
      ((normalizeCapabilityOperation host op).actionDigest = (normalizeCapabilityOperation host op').actionDigest ↔
        SameForm host op op') ∧
      (SameForm host op op' → Plain host op → Plain host op' → SameUpToCase host op op')) ∧
    ∀ db, (brokerSystem host settings).Reachable db → ∀ call now grant, db.grants.find call.grantId = some grant →
      (consumeCapabilityGrant host call now db.grants).2.authorized = true →
      ∃ before issue decision reason, IssuedBy host settings db grant before issue decision reason ∧
        (ToldApart host issue.operation call.operation → SameForm host issue.operation call.operation) := by
  refine ⟨fun op op' htold => ⟨digest_iff htold, fun h => h.sameUpToCase⟩,
    fun db hreach call now grant hgrant hauthorized => ?_⟩
  obtain ⟨found, hread, hrefusal⟩ := consume_authorized hauthorized
  obtain rfl := Option.some.inj ((ConsumeCall.read_eq_some hread).1.symm.trans hgrant)
  obtain ⟨_, _, hdigest, _⟩ := ConsumeCall.refusal_eq_none hrefusal
  obtain ⟨before, issue, decision, reason, hissued⟩ := issued_by hreach hgrant
  refine ⟨before, issue, decision, reason, hissued, fun htold => (digest_iff htold).mp ?_⟩
  rw [hissued.descends.eq] at hdigest
  exact hdigest

/-- Two resources that differ in what is replaced as a secret. -/
theorem redacted_alike : ¬ ∀ (host : Host) op op', ToldApart host op op' →
    (normalizeCapabilityOperation host op).actionDigest = (normalizeCapabilityOperation host op').actionDigest →
    SameUpToCase host op op' := by
  intro hall
  have hsame : normalizeResource "token=abc" = normalizeResource "token=def" := by decide +kernel
  have hform : SameForm (asciiHost [] []) ⟨"git.write", "push", "token=abc", []⟩ ⟨"git.write", "push", "token=def", []⟩ :=
    ⟨rfl, rfl, hsame, rfl⟩
  obtain ⟨_, _, hresource, _⟩ := hall (asciiHost [] []) _ _ (fun _ => hform.digestText)
    (congrArg (asciiHost [] []).sha256Hex hform.digestText)
  revert hresource
  decide +kernel

theorem digest_binds_example : (normalizeCapabilityOperation (asciiHost [] []) ⟨"git.write", "push", " a  b ", []⟩).actionDigest =
      (normalizeCapabilityOperation (asciiHost [] []) ⟨"GIT.write ", "Push", "a b", []⟩).actionDigest ↔
    SameForm (asciiHost [] []) ⟨"git.write", "push", " a  b ", []⟩ ⟨"GIT.write ", "Push", "a b", []⟩ := by
  have htext : digestText (asciiHost [] []) ⟨"git.write", "push", " a  b ", []⟩ =
      digestText (asciiHost [] []) ⟨"GIT.write ", "Push", "a b", []⟩ := by decide +kernel
  exact ((digest_binds (asciiHost [] []) exampleSettings).1 _ _ fun _ => htext).1

end OpenTimeline.Capability
