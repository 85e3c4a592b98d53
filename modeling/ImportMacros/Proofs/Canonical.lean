import ImportMacros.Proofs.Writes
import ImportMacros.Resolve.Metadata

/-!
# ImportMacros.Proofs.Canonical

Canonical paths of a memory. A path has one if something is at it, and that is the plain spelling
of the place that the path leads to: the same things are answered about both, and the canonical
path is its own canonical path from then on, whatever is written and wherever the working directory
moves (`Canonical`). So a resolver takes a path for a link just if there is something at it that
has a plainer path (`canonical_after`).
-/

namespace ImportMacros
namespace Memory

open ImportMacros.Path (Plain)
open ImportMacros.Resolve (Metadata)

variable {m : Memory} {p q : Path}

theorem canonicalize_eq_ok :
    m.canonicalize p = .ok q ↔ m.entry? p ≠ none ∧ m.absolute p = q := by
  unfold canonicalize
  split
  · rename_i hentry
    simp [hentry]
  · rename_i entry hentry
    simp [hentry]

/-- The normal form of a path is understood alike from any working directory. -/
theorem absolute_absolute (h : Plain m.cwd.components) (m' : Memory) (p : Path) :
    m'.absolute (m.absolute p) = m.absolute p :=
  Path.normalize_normalize_of_plain _ (Path.plain_normalize (.inl h))

theorem entry?_absolute (h : Plain m.cwd.components) (p : Path) :
    m.entry? (m.absolute p) = m.entry? p := by
  unfold entry?
  rw [absolute_absolute h]

/-- What is there stays there, if not the same. -/
theorem lookup_foldl_make_ne_none (h : Plain m.cwd.components) (calls : List Call)
    {place : List Component} (hplace : Plain place) (hthere : m.entries.lookup place ≠ none) :
    (calls.foldl make m).entries.lookup place ≠ none := by
  rw [lookup_foldl_make h calls hplace, ne_eq, Option.or_eq_none_iff]
  exact fun hnone => hthere hnone.2

/-- `q` is the path that is told for `p`, for good. -/
structure Canonical (m : Memory) (p q : Path) : Prop where
  plain : Plain q.components
  /-- Whatever is written, and wherever the working directory moves. -/
  lasting : ∀ calls : List Call, (calls.foldl make m).canonicalize q = .ok q
  read : m.read q = m.read p
  isFile : m.isFile q = m.isFile p
  isDir : m.isDir q = m.isDir p

theorem canonical_of_canonicalize (h : Plain m.cwd.components) (hq : m.canonicalize p = .ok q) :
    Canonical m p q := by
  obtain ⟨hthere, rfl⟩ := canonicalize_eq_ok.1 hq
  have hplain : Plain (m.absolute p).components := plain_absolute h p
  have hentry : m.entry? (m.absolute p) = m.entry? p := entry?_absolute h p
  refine { plain := hplain, lasting := ?_, read := ?_, isFile := ?_, isDir := ?_ }
  · intro calls
    have hself := absolute_absolute h (calls.foldl make m) p
    refine canonicalize_eq_ok.2 ⟨?_, hself⟩
    unfold entry?
    rw [hself]
    exact lookup_foldl_make_ne_none h calls hplain hthere
  · rw [read, read, hentry]
  · rw [isFile, isFile, hentry]
  · rw [isDir, isDir, hentry]

/-! ## Links -/

/-- The canonical path of a path is that path, by components, just if the path is plain. -/
theorem same_absolute_iff (h : Plain m.cwd.components) (p : Path) :
    (m.absolute p).same p = true ↔ Plain p.components := by
  rw [Path.same, beq_iff_eq]
  constructor
  · intro heq
    rw [← heq]
    exact plain_absolute h p
  · exact Path.components_normalize_of_plain m.cwd

theorem entry?_ne_none_iff (m : Memory) (p : Path) :
    m.entry? p ≠ none ↔ m.isFile p = true ∨ m.isDir p = true := by
  cases hentry : m.entry? p with
  | none => simp [isFile, isDir, hentry]
  | some entry => cases entry <;> simp [isFile, isDir, hentry]

/-- Metadata are told of whatever is there. -/
theorem exists_noFollow (hthere : m.entry? p ≠ none) :
    ∃ kind, Metadata.noFollow m.fileSystem p = .ok ⟨kind, !(m.absolute p).same p⟩ := by
  have hq : m.fileSystem.canonicalize p = .ok (m.absolute p) :=
    canonicalize_eq_ok.2 ⟨hthere, rfl⟩
  simp only [Metadata.noFollow, hq, Metadata.ofEntry]
  rcases (entry?_ne_none_iff m p).1 hthere with hfile | hdir
  · exact ⟨.file, if_pos hfile⟩
  · split
    · exact ⟨.file, rfl⟩
    · exact ⟨.directory, if_pos hdir⟩

theorem entry?_ne_none_of_noFollow {metadata : Metadata}
    (h : Metadata.noFollow m.fileSystem p = .ok metadata) : m.entry? p ≠ none := by
  unfold Metadata.noFollow at h
  split at h
  · cases h
  · rename_i hq
    exact (canonicalize_eq_ok.1 hq).1

theorem isLink_iff (h : Plain m.cwd.components) {metadata : Metadata}
    (hmetadata : Metadata.noFollow m.fileSystem p = .ok metadata) :
    metadata.isLink = true ↔ ¬Plain p.components := by
  obtain ⟨kind, hkind⟩ := exists_noFollow (entry?_ne_none_of_noFollow hmetadata)
  rw [hkind] at hmetadata
  cases hmetadata
  rw [← same_absolute_iff h, Bool.not_eq_true', Bool.not_eq_true]

/-- Canonical paths last, and a resolver takes for links just what has another canonical path. -/
structure LastingNames (m : Memory) : Prop where
  canonical : ∀ p q, m.canonicalize p = .ok q → Canonical m p q
  exists_iff : ∀ p, (∃ q, m.canonicalize p = .ok q) ↔ m.isFile p = true ∨ m.isDir p = true
  /-- Plain paths are those that are spelled as their canonical paths. -/
  plain_iff : ∀ p q, m.canonicalize p = .ok q → (Plain p.components ↔ q.components = p.components)
  told_iff : ∀ p, (∃ metadata, Metadata.noFollow m.fileSystem p = .ok metadata) ↔
    m.isFile p = true ∨ m.isDir p = true
  link_iff : ∀ p, (∃ metadata, Metadata.noFollow m.fileSystem p = .ok metadata ∧
      metadata.isLink = true) ↔
    (m.isFile p = true ∨ m.isDir p = true) ∧ ¬Plain p.components

theorem canonical_after (calls : List Call) : LastingNames (after calls) := by
  have h : Plain (after calls).cwd.components := plain_cwd_after calls
  refine {
    canonical := fun p q => canonical_of_canonicalize h
    exists_iff := ?_
    plain_iff := ?_
    told_iff := ?_
    link_iff := ?_ }
  · intro p
    simp only [canonicalize_eq_ok, ← entry?_ne_none_iff, exists_and_left, exists_eq', and_true]
  · intro p q hq
    obtain ⟨-, rfl⟩ := canonicalize_eq_ok.1 hq
    rw [← same_absolute_iff h, Path.same, beq_iff_eq]
  · intro p
    rw [← entry?_ne_none_iff]
    constructor
    · rintro ⟨metadata, hmetadata⟩
      exact entry?_ne_none_of_noFollow hmetadata
    · intro hthere
      obtain ⟨kind, hkind⟩ := exists_noFollow hthere
      exact ⟨_, hkind⟩
  · intro p
    rw [← entry?_ne_none_iff]
    constructor
    · rintro ⟨metadata, hmetadata, hlink⟩
      exact ⟨entry?_ne_none_of_noFollow hmetadata, (isLink_iff h hmetadata).1 hlink⟩
    · rintro ⟨hthere, hplain⟩
      obtain ⟨kind, hkind⟩ := exists_noFollow hthere
      exact ⟨_, hkind, (isLink_iff h hkind).2 hplain⟩

/-- From `/a`, the file `/a/c` is also at `b/../c`, which is therefore taken for a link. -/
example :
    let m := after [.setCwd (Path.ofText "/a"), .write (Path.ofText "c") "x"]
    m.canonicalize (Path.ofText "b/../c") = .ok (Path.ofText "/a/c") ∧
      Metadata.noFollow m.fileSystem (Path.ofText "b/../c") = .ok ⟨.file, true⟩ ∧
      Metadata.noFollow m.fileSystem (Path.ofText "/a//c") = .ok ⟨.file, false⟩ := by
  decide

end Memory
end ImportMacros
