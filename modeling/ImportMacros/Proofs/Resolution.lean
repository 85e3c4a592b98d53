import ImportMacros.Proofs.Canonical
import ImportMacros.Proofs.Finder

/-!
# ImportMacros.Proofs.Resolution

Sources resolved over a memory. A path of something really leads to its canonical path, by
components: a plain path leads through no link and is followed step by step to itself, and any other
one is a link (`components_realPath`). So a file stays a file when its links are followed, and
whatever a source is resolved to is a file at its own canonical path (`isModule_of_resolves`),
however the source names it, and whatever the finder has looked for before.
-/

namespace ImportMacros
namespace Resolve

open Memory (Call after)
open ImportMacros.Path (Plain)

variable {fs : FileSystem} {memory : Memory} {p : Path}

theorem link?_of_plain (h : Plain memory.cwd.components) (hp : Plain p.components) :
    link? memory.fileSystem p = none := by
  unfold link?
  split
  · rfl
  · rename_i metadata hmetadata
    exact if_neg fun hlink => (Memory.isLink_iff h hmetadata).1 hlink hp

theorem link?_of_not_plain (h : Plain memory.cwd.components) (hthere : memory.entry? p ≠ none)
    (hp : ¬Plain p.components) : link? memory.fileSystem p = some (memory.absolute p) := by
  obtain ⟨kind, hmetadata⟩ := Memory.exists_noFollow hthere
  have hlink := (Memory.isLink_iff h hmetadata).2 hp
  have hq : memory.fileSystem.canonicalize p = .ok (memory.absolute p) :=
    Memory.canonicalize_eq_ok.2 ⟨hthere, rfl⟩
  simp only [link?, hmetadata]
  rw [if_pos hlink, hq]
  rfl

theorem components_follow (dir : Path) {name : String} (hname : Path.isName name = true) :
    (follow dir (Path.ofComponents [.name name])).components = dir.components ++ [.name name] := by
  rw [Path.isName, Bool.and_eq_true, bne_iff_ne] at hname
  obtain ⟨hstep, hup⟩ := hname
  have hcomponent : Path.component name = .name name := if_neg hup
  have hsub : (Path.ofComponents [.name name]).components = [.name name] := by
    have happend := Path.components_append_step [] hstep
    rw [hcomponent] at happend
    exact happend
  rw [follow, hsub]
  change (dir.join ⟨[name]⟩).components = _
  rw [Path.components_join dir hstep, hcomponent]

/-- Plain paths lead through no link, so they are followed step by step to where they are. -/
theorem components_realFrom (h : Plain memory.cwd.components) {cs : List Component}
    (hcs : Plain cs) {ps : List Path}
    (hps : ps.map Path.components = cs :: Component.above cs.reverse) :
    (realFrom memory.fileSystem ps).components = cs := by
  induction ps generalizing cs with
  | nil => cases hps
  | cons p above ih =>
    obtain ⟨rfl, habove⟩ := List.cons.inj hps
    have hlink := link?_of_plain h hcs
    rcases hcs.eq_root_or_concat with hroot | ⟨front, name, hfront, hname, hconcat⟩
    · rw [hroot] at habove
      obtain rfl := List.map_eq_nil_iff.1 habove
      rw [realFrom.eq_def]
      simp only [hlink]
    · have hname' : Component.name name ≠ .root := nofun
      rw [hconcat, List.reverse_concat, Component.above_cons hname', List.reverse_reverse] at habove
      have hbelow := ih hfront habove
      cases above with
      | nil => cases habove
      | cons next more =>
        rw [realFrom.eq_def]
        simp only [hlink]
        rw [hconcat, List.getLast?_concat, Option.toList_some, components_follow _ hname, hbelow]

/-- A path of something really leads to its canonical path. -/
theorem components_realPath (h : Plain memory.cwd.components) (hthere : memory.entry? p ≠ none) :
    (realPath memory.fileSystem p).components = (memory.absolute p).components := by
  by_cases hp : Plain p.components
  · have hsame := (Memory.same_absolute_iff h p).2 hp
    rw [Path.same, beq_iff_eq] at hsame
    rw [hsame]
    refine components_realFrom h hp ?_
    rw [Path.ancestors, List.map_cons, Path.components_parents]
  · rw [realPath, Path.ancestors, realFrom.eq_def]
    simp only [link?_of_not_plain h hthere hp]

/-- A path of a memory at which a module can be loaded and found again. -/
structure IsModule (memory : Memory) (p : Path) : Prop where
  isFile : memory.isFile p = true
  isCanonical : ∃ q, memory.canonicalize p = .ok q ∧ q.same p = true

theorem isModule_realPath (h : Plain memory.cwd.components) (hfile : memory.isFile p = true) :
    IsModule memory (realPath memory.fileSystem p) := by
  have hthere : memory.entry? p ≠ none := (Memory.entry?_ne_none_iff memory p).2 (.inl hfile)
  have hreal := components_realPath h hthere
  generalize realPath memory.fileSystem p = q at hreal
  have hplain : Plain q.components := hreal ▸ Memory.plain_absolute h p
  have hentry : memory.entry? q = memory.entry? p := by
    rw [← Memory.entry?_absolute h p]
    unfold Memory.entry?
    rw [Memory.absolute, Path.normalize_congr memory.cwd hreal]
    rfl
  refine ⟨?_, memory.absolute q, ?_, (Memory.same_absolute_iff h q).2 hplain⟩
  · rw [← hfile, Memory.isFile, Memory.isFile, hentry]
  · exact Memory.canonicalize_eq_ok.2 ⟨hentry ▸ hthere, rfl⟩

/-! ## Finders -/

def Finder.seenAfter (f : Finder (StateM Seen)) (queries : List (String × Path)) : Seen :=
  queries.foldl (fun seen query => ((f.find query.1 query.2).run seen).2) {}

theorem isTrue_seenAfter {f : Finder (StateM Seen)}
    (hf : f.sight.Faithful (.keeping (Seen.IsTrue fs)) fs) (queries : List (String × Path)) :
    (f.seenAfter queries).IsTrue fs := by
  refine List.foldlRecOn queries _ ?_ ?_
  · exact nofun
  · intro seen hseen query _
    exact (Finder.gives_find hf query.1 query.2 seen hseen).2

/-- What a source is resolved to, by a finder without a memory or by one that has looked for other
sources before. -/
inductive Resolves (fs : FileSystem) (paths : List String) (source : String) (dir : Path) :
    Path → Prop where
  | afresh {p : Path} : (Finder.ofPaths (.ofFileSystem fs) paths).resolve source dir = .ok p →
      Resolves fs paths source dir p
  | remembering {p : Path} (queries : List (String × Path)) :
      (((Finder.ofPaths (.remembering fs) paths).find source dir).run
        ((Finder.ofPaths (.remembering fs) paths).seenAfter queries)).1 = .ok p →
      Resolves fs paths source dir p

/-- Whatever a source is resolved to is a file, and its own canonical path. -/
theorem isModule_of_resolves {calls : List Call} {paths : List String} {source : String}
    {dir : Path} (h : Resolves (after calls).fileSystem paths source dir p) :
    IsModule (after calls) p := by
  have hp : ∃ q, (after calls).fileSystem.isFile q = true ∧
      p = realPath (after calls).fileSystem q := by
    cases h with
    | afresh hp =>
      have hf : (Finder.ofPaths (.ofFileSystem (after calls).fileSystem) paths).sight.Faithful
          .plain (after calls).fileSystem := Sight.faithful_ofFileSystem _
      exact Finder.gives_find hf source dir p hp
    | remembering queries hp =>
      have hf : (Finder.ofPaths (.remembering (after calls).fileSystem) paths).sight.Faithful
          (.keeping (Seen.IsTrue (after calls).fileSystem)) (after calls).fileSystem :=
        Sight.faithful_remembering _
      exact (Finder.gives_find hf source dir _ (isTrue_seenAfter hf queries)).1 p hp
  obtain ⟨q, hq, rfl⟩ := hp
  exact isModule_realPath (Memory.plain_cwd_after calls) hq

/-- A package of tools that exports a macro, seen from a project. -/
def toolbox : List Call := [
  .write (Path.ofText "/tools/eval/package.json")
    "\x7b\"exports\": \x7b\"./macro\": \"./src/eval.js\"\x7d\x7d",
  .write (Path.ofText "/tools/eval/src/eval.js") "",
  .setCwd (Path.ofText "/project")]

theorem isModule_toolbox :
    let p := Path.ofText "/tools/eval/src/eval.js"
    Resolves (after toolbox).fileSystem ["/opt/../tools"] "eval/macro"
        (Path.ofText "/project/src") p ∧
      IsModule (after toolbox) p := by
  have h : Resolves (after toolbox).fileSystem ["/opt/../tools"] "eval/macro"
      (Path.ofText "/project/src") (Path.ofText "/tools/eval/src/eval.js") :=
    .remembering [("./eval", Path.ofText "/project/src")] (by decide +kernel)
  exact ⟨h, isModule_of_resolves h⟩

end Resolve
end ImportMacros
