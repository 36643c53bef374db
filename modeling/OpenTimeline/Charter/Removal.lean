import OpenTimeline.Charter.Folding
import OpenTimeline.Charter.Validation

/-! A root that is taken away.

A narrowing names the roots it takes away, in its own spellings. Roots are matched by the segments they stand for,
so another spelling of a directory is gone with it (`removed_root_gone`). A root beneath a removed one is a root of
its own, and stays until it is named (`beneath_removed`). -/
namespace OpenTimeline.Charter

variable {host : Host}

/-- What a narrowing names is among the roots it takes away, normalised. -/
theorem normRel_mem_removedRoots {requested : List String} {request : String} {segments : List String}
    (hrequest : request ∈ requested) (hsegments : segmentsOf request = some segments) (hnamed : segments ≠ []) :
    joinSlash segments ∈ removedRoots requested := by
  have hnorm := normRel_of_segmentsOf hsegments
  have hne : joinSlash segments ≠ "" := fun hempty => hnamed ((joinSlash_eq_empty (plain_of_segmentsOf hsegments)).mp hempty)
  refine List.mem_append_right _ (List.mem_filter.mpr ⟨?_, by simpa using hne⟩)
  exact hnorm ▸ List.mem_map_of_mem hrequest

/-- No root that stands for a removed directory is retained. -/
theorem not_retained {requested : List String} {root request : String} {segments : List String}
    (hrequest : request ∈ requested) (hsegments : segmentsOf request = some segments) (hnamed : segments ≠ [])
    (hsame : segmentsOf root = some segments) : retained (removedRoots requested) root = false := by
  have hmem := normRel_mem_removedRoots hrequest hsegments hnamed
  have hne : joinSlash segments ≠ "" := fun hempty => hnamed ((joinSlash_eq_empty (plain_of_segmentsOf hsegments)).mp hempty)
  simp [retained, normRel_of_segmentsOf hsame, hmem, hne]

/-- After a narrowing no root of the charter stands for a directory of the workspace that the narrowing took away,
however either was spelled. -/
theorem removed_root_gone (host : Host) (charter after : ResolvedCharter) (narrowing : Payload) (requested : List String)
    (hrequested : strTuple host (narrowing.get "remove_roots") = .ok requested)
    (h : narrowCharter host charter narrowing = .ok after) :
    ∀ root ∈ after.permittedRoots, ∀ request ∈ requested, ∀ segments, segmentsOf request = some segments →
      segments ≠ [] → segmentsOf root ≠ some segments := by
  intro root hroot request hrequest segments hsegments hnamed hsame
  obtain ⟨-, rfl⟩ := narrowCharter_ok_iff.mp h
  obtain ⟨-, rfl⟩ := strTuple_ok_iff.mp hrequested
  have hretained := (List.mem_filter.mp hroot).2
  rw [not_retained hrequest hsegments hnamed hsame] at hretained
  cases hretained

/-- A charter payload that permits a directory and one beneath it. -/
def nestedRoots : Payload :=
  [("enforcement_tier", .str "advisory"), ("permitted_roots", .arr [.str "src", .str "src/a"]),
    ("protected_write_prefixes", .arr [.str "tests/"])]

theorem removed_root_gone_source : ∃ after,
    narrowCharter (asciiHost [] []) (protectedSource "tests/") withoutSource = .ok after ∧
      ∀ root ∈ after.permittedRoots, segmentsOf root ≠ some ["src"] := by
  cases hafter : narrowCharter (asciiHost [] []) (protectedSource "tests/") withoutSource with
  | error e =>
    have hok : (narrowCharter (asciiHost [] []) (protectedSource "tests/") withoutSource).toOption.isSome = true := by decide
    rw [hafter] at hok
    cases hok
  | ok after =>
    refine ⟨after, rfl, fun root hroot => ?_⟩
    exact removed_root_gone (asciiHost [] []) (protectedSource "tests/") after withoutSource ["src/"] rfl hafter root hroot
      "src/" List.mem_cons_self ["src"] (by decide) (by decide)

/-- `src/a` is permitted still where `src` is removed. -/
theorem beneath_removed : ¬ ∀ (host : Host) (payload : Payload) (normalized : NormalizedCharter),
    validateCharterPayload host payload = .ok normalized →
    ∀ charter : ResolvedCharter, charter.permittedRoots = normalized.permittedRoots →
    ∀ (narrowing : Payload) (requested : List String) (after : ResolvedCharter),
      strTuple host (narrowing.get "remove_roots") = .ok requested → narrowCharter host charter narrowing = .ok after →
    ∀ root ∈ after.permittedRoots, ∀ request ∈ requested, ∀ removed kept, segmentsOf request = some removed →
      segmentsOf root = some kept → ¬ removed <+: kept := by
  intro h
  have hroots : (validateCharterPayload (asciiHost [] []) nestedRoots).toOption.map (·.permittedRoots) = some ["src", "src/a"] := by
    decide
  obtain ⟨normalized, hvalid, hnormalized⟩ := Option.map_eq_some_iff.mp hroots
  let charter := {protectedSource "tests/" with permittedRoots := ["src", "src/a"]}
  have hleft : (narrowCharter (asciiHost [] []) charter withoutSource).toOption.map (·.permittedRoots) = some ["src/a"] := by
    decide
  obtain ⟨after, hafter, hkept⟩ := Option.map_eq_some_iff.mp hleft
  exact h (asciiHost [] []) nestedRoots normalized (toOption_eq_some_iff.mp hvalid) charter hnormalized.symm withoutSource
    ["src/"] after rfl (toOption_eq_some_iff.mp hafter) "src/a" (by rw [hkept]; decide) "src/" List.mem_cons_self
    ["src"] ["src", "a"] (by decide) (by decide) (by decide)

end OpenTimeline.Charter
