import ImportMacros.Proofs.Loop

/-!
# ImportMacros.Proofs.Termination

An expansion ends if its macros bring in no statements. The measure is `pending`, the number of
statements whose key is not handled: every turn that does not end the expansion lowers it
(`pending_lt_of_handle`), whether it removes a statement of the key or marks the key as handled,
and whatever statement of the key the removal finds. So there are at most as many turns as there
are statements (`exists_loop_of_shrinks`).
-/

namespace ImportMacros

/-- A macro that brings in no statements: whatever it leaves, every key occurs at most as often as
before. -/
def Macro.Shrinks (wanted : String → Bool) (m : Macro) : Prop :=
  ∀ call p, ((m.body call p).program.keys wanted).Subperm (p.keys wanted)

namespace Expansion

variable {setting : Setting} {file : Option Path}

/-- How many statements of a program have a key that is not handled. -/
def pending (wanted : String → Bool) (st : State) : Nat :=
  (st.program.keys wanted).countP fun key => !st.handled.contains key

theorem pending_le_length (wanted : String → Bool) (st : State) :
    pending wanted st ≤ (st.program.statements wanted).length := by
  have h := List.countP_le_length (p := fun key => !st.handled.contains key)
    (l := st.program.keys wanted)
  rwa [Program.keys, List.length_map] at h

theorem pending_pos {wanted : String → Bool} {st : State} {s : Statement}
    (h : st.program.firstStatement? wanted st.handled = some s) : 0 < pending wanted st := by
  obtain ⟨hmem, hkey⟩ := Program.mem_of_firstStatement? h
  exact List.countP_pos_iff.2 ⟨s.key, List.mem_map_of_mem hmem, by simpa using hkey⟩

theorem Answers.keys (hmacros : setting.AllMacros (·.Shrinks setting.isWanted))
    {s : Statement} {st after : State} {result : Except Failure (Option Request)}
    (h : Answers setting file s st result after) :
    (after.program.keys setting.isWanted).Subperm (st.program.keys setting.isWanted) := by
  cases h with
  | unsupported _ => exact List.Subperm.refl _
  | unused _ _ _ => exact List.Subperm.refl _
  | stopped _ hprogram _ _ => rw [hprogram]
  | called _ htarget hreply hprogram _ _ =>
    rw [hprogram, ← hreply]
    exact hmacros.target htarget _ _

section Count

variable {keys keys' : List Key} {handled : List Key} {key : Key}

theorem count_of_removed (h : (key :: keys').Subperm keys) (hkey : key ∉ handled) :
    keys'.countP (fun k => !handled.contains k) < keys.countP fun k => !handled.contains k := by
  have hle := h.countP_le fun k => !handled.contains k
  rw [List.countP_cons_of_pos (by simpa using hkey)] at hle
  omega

theorem count_of_marked (h : keys'.Subperm keys) (hmem : key ∈ keys) (hkey : key ∉ handled) :
    keys'.countP (fun k => !(key :: handled).contains k) <
      keys.countP fun k => !handled.contains k := by
  have hle := h.countP_le fun k => !(key :: handled).contains k
  have hlt : keys.countP (fun k => !(key :: handled).contains k) <
      keys.countP fun k => !handled.contains k := by
    obtain ⟨front, back, rfl⟩ := List.append_of_mem hmem
    have hmono : ∀ ks : List Key, ks.countP (fun k => !(key :: handled).contains k) ≤
        ks.countP fun k => !handled.contains k := by
      intro ks
      refine List.countP_mono_left fun k _ hk => ?_
      simp only [List.contains_cons, Bool.not_or, Bool.and_eq_true] at hk
      exact hk.2
    have hfront := hmono front
    have hback := hmono back
    simp only [List.countP_append]
    rw [List.countP_cons_of_neg (by simp), List.countP_cons_of_pos (by simpa using hkey)]
    omega
  omega

end Count

/-- Every turn lowers the number of statements that are not handled. -/
theorem pending_lt_of_handle (hmacros : setting.AllMacros (·.Shrinks setting.isWanted))
    {s : Statement} {st after : State}
    (hs : st.program.firstStatement? setting.isWanted st.handled = some s)
    (h : handle setting file s st = .next after) :
    pending setting.isWanted after < pending setting.isWanted st := by
  obtain ⟨hmem, hkey⟩ := Program.mem_of_firstStatement? hs
  have hwanted := Program.wanted_of_mem_statements hmem
  have hkeys : s.key ∈ st.program.keys setting.isWanted := List.mem_map_of_mem hmem
  obtain ⟨request, middle, hanswer, rfl⟩ := handle_eq_next h
  have hanswers := answers setting file s st
  rw [hanswer] at hanswers
  have hshrinks := hanswers.keys hmacros
  have hhandled := hanswers.handled
  rw [pending, pending]
  cases hkeeps : request.any (·.keepImports) with
  | true =>
    rw [finish_of_keeps hkeeps, hhandled]
    exact count_of_marked hshrinks hkeys hkey
  | false =>
    have hsublist := Program.remove_keys_sublist hwanted middle.program
    rw [finish_program hkeeps, finish_handled hkeeps, hhandled]
    cases hremoved : (middle.program.remove s).2 with
    | true => exact count_of_removed ((Program.remove_keys hwanted hremoved).trans hshrinks) hkey
    | false => exact count_of_marked (hsublist.subperm.trans hshrinks) hkeys hkey

theorem exists_loop_length_le_pending (hmacros : setting.AllMacros (·.Shrinks setting.isWanted))
    (file : Option Path) (st : State) :
    ∃ turns outcome, Loop setting file st turns outcome ∧
      turns.length ≤ pending setting.isWanted st := by
  induction hpending : pending setting.isWanted st using Nat.strongRecOn generalizing st with
  | _ n ih =>
    subst hpending
    cases hs : st.program.firstStatement? setting.isWanted st.handled with
    | none => exact ⟨[], .finished st, .finished hs, Nat.zero_le _⟩
    | some s =>
      cases hhandle : handle setting file s st with
      | done => exact absurd hhandle handle_ne_done
      | failed failure after =>
        exact ⟨[⟨s, st⟩], .failed failure after, .failed hs hhandle, pending_pos hs⟩
      | next after =>
        have hlt := pending_lt_of_handle hmacros hs hhandle
        obtain ⟨turns, outcome, hloop, hlength⟩ := ih _ hlt after rfl
        refine ⟨⟨s, st⟩ :: turns, outcome, .next hs hhandle hloop, ?_⟩
        rw [List.length_cons]
        omega

/-- From any state, whatever is handled and whether or not keys repeat, the loop ends after at
most as many turns as the program has statements. -/
theorem exists_loop_of_shrinks (hmacros : setting.AllMacros (·.Shrinks setting.isWanted))
    (file : Option Path) (st : State) :
    ∃ turns outcome, Loop setting file st turns outcome ∧ (∀ last, outcome ≠ .cutShort last) ∧
      turns.length ≤ (st.program.statements setting.isWanted).length ∧
      ∀ limit, turns.length ≤ limit → run setting file limit st = outcome := by
  obtain ⟨turns, outcome, hloop, hlength⟩ := exists_loop_length_le_pending hmacros file st
  have hpending := pending_le_length setting.isWanted st
  exact ⟨turns, outcome, hloop, hloop.ne_cutShort, Nat.le_trans hlength hpending,
    fun limit hlimit => hloop.run hlimit⟩

def eraser : Call → Program → Reply := fun _ p => ⟨.ok none, { p with body := [] }⟩

/-- Two imports of one key, and a use of the second. -/
def State.twice : State where
  program := ⟨true, Span.none, .null, [
    .importOf ⟨⟨1, 9⟩, "a.macro"⟩ ⟨"a", 2, ⟨2, 3⟩, false⟩,
    .importOf ⟨⟨1, 9⟩, "a.macro"⟩ ⟨"b", 2, ⟨4, 5⟩, false⟩,
    .useOf ⟨"b", 2, ⟨6, 7⟩, false⟩]⟩

theorem exists_loop_twice :
    (Setting.loading eraser).AllMacros (·.Shrinks isMacroName) ∧
    (State.twice.program.statements isMacroName).length = 2 ∧
    ∃ turns outcome, Loop (Setting.loading eraser) none State.twice turns outcome ∧
      (∀ st, outcome ≠ .cutShort st) ∧
      turns.length ≤ (State.twice.program.statements isMacroName).length ∧
      ∀ limit, turns.length ≤ limit →
        run (Setting.loading eraser) none limit State.twice = outcome := by
  have hmacros : (Setting.loading eraser).AllMacros (·.Shrinks isMacroName) := by
    refine Setting.allMacros_loading fun m hm call p => ?_
    rw [hm]
    exact List.nil_subperm
  exact ⟨hmacros, by decide, exists_loop_of_shrinks hmacros none State.twice⟩

end Expansion
end ImportMacros
