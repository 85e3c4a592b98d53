import ImportMacros.Proofs.Loop
import ImportMacros.Proofs.Usage

/-!
# ImportMacros.Proofs.Unused

Statements that nothing uses go without a trace of the outside world. If that is true of all
statements of a program, the expansion removes them one by one; it calls no macro, leaves the
explorer alone, and ends with a program that depends on the given one only
(`expand_of_isIdle`). What carries the loop is that removing a statement makes no other one used
(`isIdle_remove`).
-/

namespace ImportMacros

/-- Whether the bindings of a statement are supported and nothing in a program uses them. -/
def Statement.isIdle (p : Program) (s : Statement) : Bool :=
  match s.bindings with
  | .ok bindings => !(References.collect p bindings.scope bindings.items).isUsed
  | .error _ => false

variable {wanted : String → Bool} {p : Program} {s : Statement}

theorem Statement.isIdle_iff :
    s.isIdle p = true ↔ ∃ bindings, s.bindings = .ok bindings ∧
      (References.collect p bindings.scope bindings.items).isUsed = false := by
  rw [isIdle]
  cases s.bindings with
  | ok bindings => simp
  | error binding => simp

theorem Program.isIdle_remove (hwanted : wanted s.source = true)
    (hidle : ∀ t ∈ p.statements wanted, t.isIdle p = true) :
    ∀ t ∈ (p.remove s).1.statements wanted, t.isIdle (p.remove s).1 = true := by
  intro t ht
  have houtline : t.outline ∈ (p.statements wanted).map Statement.outline :=
    (remove_outlines hwanted p).subset (List.mem_map_of_mem ht)
  obtain ⟨u, hu, houtline⟩ := List.mem_map.1 houtline
  obtain ⟨bindings, hbindings, hunused⟩ := Statement.isIdle_iff.1 (hidle u hu)
  have hbindings' : t.bindings = .ok bindings := by
    rw [← Statement.outline_bindings, ← houtline, Statement.outline_bindings, hbindings]
  exact Statement.isIdle_iff.2 ⟨bindings, hbindings', References.isUsed_collect_of_subset
    (remove_uses s p).subset (remove_declared s p).subset hunused⟩

namespace Expansion

theorem isUsed_references_of_isIdle (h : s.isIdle p = true) :
    (references s p).isUsed = false := by
  obtain ⟨bindings, hbindings, hunused⟩ := Statement.isIdle_iff.1 h
  rw [references, hbindings]
  exact hunused

theorem handle_of_isIdle (setting : Setting) (file : Option Path) {st : State}
    (hp : st.program.strays wanted = []) (hs : s ∈ st.program.statements wanted)
    (hidle : s.isIdle st.program = true) :
    ∃ after, handle setting file s st = .next after ∧
      after.program = (st.program.remove s).1 ∧ after.handled = st.handled ∧
      after.calls = st.calls ∧ after.explorer = st.explorer := by
  have hunused := isUsed_references_of_isIdle hidle
  have hanswers := answers setting file s st
  rw [handle]
  generalize answer setting file s st = result at hanswers
  obtain ⟨result, middle⟩ := result
  cases hanswers with
  | unsupported hbindings =>
    obtain ⟨bindings, hbindings', -⟩ := Statement.isIdle_iff.1 hidle
    rw [hbindings] at hbindings'
    cases hbindings'
  | unused events _ _ =>
    have hremoved := Program.remove_of_strays_eq_nil hp hs
    obtain ⟨hcalls, hexplorer⟩ := finish_frame s none (st.tell events)
    refine ⟨finish s none (st.tell events), rfl, finish_program rfl, ?_, hcalls, hexplorer⟩
    rw [finish_handled rfl]
    exact if_pos hremoved
  | stopped hused _ _ _ => rw [hunused] at hused; cases hused
  | called hused _ _ _ _ _ => rw [hunused] at hused; cases hused

theorem firstStatement?_of_cons {rest : List Statement} (h : p.statements wanted = s :: rest) :
    p.firstStatement? wanted [] = some s := by
  rw [Program.firstStatement?_eq_find?, h]
  rfl

theorem length_remove (hp : p.strays wanted = []) (hs : s ∈ p.statements wanted) :
    ((p.remove s).1.statements wanted).length < (p.statements wanted).length := by
  have hsubperm := Program.remove_keys (Program.wanted_of_mem_statements hs)
    (Program.remove_of_strays_eq_nil hp hs)
  have hlength := hsubperm.length_le
  simp only [List.length_cons, Program.keys, List.length_map] at hlength
  omega

/-- The program that is left is fixed before anything but the given program is. -/
theorem exists_loop_of_isIdle (hp : p.strays wanted = [])
    (hidle : ∀ s ∈ p.statements wanted, s.isIdle p = true) :
    ∃ q : Program, q.statements wanted = [] ∧ ∀ setting file st,
      setting.isWanted = wanted → st.program = p → st.handled = [] →
      ∃ turns after, Loop setting file st turns (.finished after) ∧
        turns.length ≤ (p.statements wanted).length ∧
        after.program = q ∧ after.calls = st.calls ∧ after.explorer = st.explorer := by
  induction hlength : (p.statements wanted).length using Nat.strongRecOn
    generalizing p with
  | _ n ih =>
    subst hlength
    cases hstatements : p.statements wanted with
    | nil =>
      refine ⟨p, hstatements, fun setting file st hwanted hprogram hhandled => ?_⟩
      refine ⟨[], st, .finished ?_, Nat.zero_le _, hprogram, rfl, rfl⟩
      simp [Program.firstStatement?_eq_none, hwanted, hprogram, hstatements]
    | cons s rest =>
      have hs : s ∈ p.statements wanted := by simp [hstatements]
      have hshorter := length_remove hp hs
      obtain ⟨q, hq, hloop⟩ := ih _ hshorter (Program.remove_strays s hp)
        (Program.isIdle_remove (Program.wanted_of_mem_statements hs) hidle) rfl
      refine ⟨q, hq, fun setting file st hwanted hprogram hhandled => ?_⟩
      subst hwanted hprogram
      obtain ⟨after, hhandle, hafter, hhandled', hcalls, hexplorer⟩ :=
        handle_of_isIdle setting file hp hs (hidle s hs)
      obtain ⟨turns, last, hturns, hlength, hlast, hcalls', hexplorer'⟩ :=
        hloop setting file after rfl hafter (hhandled'.trans hhandled)
      have hfirst : st.program.firstStatement? setting.isWanted st.handled = some s := by
        rw [hhandled]
        exact firstStatement?_of_cons hstatements
      rw [hstatements] at hshorter
      refine ⟨⟨s, st⟩ :: turns, last, .next hfirst hhandle hturns, ?_, hlast,
        hcalls'.trans hcalls, hexplorer'.trans hexplorer⟩
      rw [List.length_cons]
      omega

/-- If nothing uses the statements of a program, its expansion ends without them, calls no macro,
and comes out the same whatever the file system, the resolver, the modules, the options and the
explorer are. -/
theorem expand_of_isIdle (hp : p.strays wanted = [])
    (hidle : ∀ s ∈ p.statements wanted, s.isIdle p = true) :
    ∃ q : Program, q.statements wanted = [] ∧ ∀ setting explorer file,
      setting.isWanted = wanted → ∃ st, expand setting explorer file p = .finished st ∧
        st.program = q ∧ st.calls = [] ∧ st.explorer = explorer := by
  obtain ⟨q, hq, hloop⟩ := exists_loop_of_isIdle hp hidle
  refine ⟨q, hq, fun setting explorer file hwanted => ?_⟩
  subst hwanted
  obtain ⟨turns, st, hturns, hlength, hprogram, hcalls, hexplorer⟩ :=
    hloop setting file { program := p, explorer := explorer } rfl rfl rfl
  exact ⟨st, hturns.expand hlength, hprogram, hcalls, hexplorer⟩

/-- An import, and in a block two requires of one key; only another name is used. -/
def idleProgram : Program :=
  let twin : Key := ⟨⟨10, 19⟩, "b.macro"⟩
  ⟨true, Span.none, .null, [
    .importOf ⟨⟨1, 9⟩, "a.macro"⟩ ⟨"a", 2, ⟨2, 3⟩, false⟩,
    .node .block Span.none [] [.seq [.constOf [
      .requireOf twin (.binder ⟨"b", 3, ⟨10, 11⟩, false⟩ .absent),
      .requireOf twin (.binder ⟨"c", 3, ⟨12, 13⟩, false⟩ .absent)]]],
    .useOf ⟨"b", 2, ⟨20, 21⟩, false⟩]⟩

theorem expand_idleProgram : (idleProgram.statements isMacroName).length = 3 ∧
    idleProgram.strays isMacroName = [] ∧
    (∀ s ∈ idleProgram.statements isMacroName, s.isIdle idleProgram = true) ∧
    ∃ q : Program, q.statements isMacroName = [] ∧ ∀ setting explorer file,
      setting.isWanted = isMacroName → ∃ st,
        expand setting explorer file idleProgram = .finished st ∧
          st.program = q ∧ st.calls = [] ∧ st.explorer = explorer := by
  have hstrays : idleProgram.strays isMacroName = [] := by
    rw [← List.length_eq_zero_iff]
    decide
  have hidle : ∀ s ∈ idleProgram.statements isMacroName, s.isIdle idleProgram = true := by decide
  exact ⟨by decide, hstrays, hidle, expand_of_isIdle hstrays hidle⟩

end Expansion
end ImportMacros
