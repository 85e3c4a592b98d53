import ImportMacros.Proofs.Order

/-!
# ImportMacros.Proofs.Twins

What removal does where several statements have one key. A statement is remembered by its key only,
so it cannot be told from its twins, the statements of the same form and key. To remove an import is
to remove all its twins among the items. To remove a `require` is to remove one twin, which need not
be the statement itself (`not_takesFound`).

`remove_of_found` tells what is left of the statements of a program: only twins go, each with the
statements inside its target.
-/

namespace ImportMacros
namespace Statement

/-- Whether a statement cannot be told from another one by form and key. -/
def isTwin : Statement → Statement → Bool
  | .importing key _, .importing key' _ => key' == key
  | .requiring key _, .requiring key' _ => key' == key
  | _, _ => false

theorem isTwin_self (s : Statement) : s.isTwin s = true := by
  cases s <;> exact beq_self_eq_true _

/-- `t'` is what the removal of `s` leaves of another statement `t`. -/
def Leaves : Statement → Statement → Statement → Prop
  | .importing _ _, t, t' => t' = t
  | .requiring key _, t, t' => ∃ u, Dropped key t u ∧ t' = u.tidied

/-- Of some statements, those that are left when `n` twins of `s` are taken. -/
inductive Loses (wanted : String → Bool) (s : Statement) :
    List Statement → List Statement → Nat → Prop where
  | nil : Loses wanted s [] [] 0
  | keep {t t' : Statement} {rest rest' : List Statement} {n : Nat} :
      s.Leaves t t' → Loses wanted s rest rest' n → Loses wanted s (t :: rest) (t' :: rest') n
  | take {t : Statement} {rest rest' : List Statement} {n : Nat} :
      s.isTwin t = true → Loses wanted s rest rest' n →
      Loses wanted s (t :: (t.inside wanted ++ rest)) rest' (n + 1)

namespace Loses

variable {wanted : String → Bool} {s : Statement} {ss ss' ts ts' : List Statement} {n : Nat}

theorem keepAll (h : List.Forall₂ s.Leaves ss ss') (hrest : Loses wanted s ts ts' n) :
    Loses wanted s (ss ++ ts) (ss' ++ ts') n := by
  induction h with
  | nil => exact hrest
  | cons ht _ ih => exact .keep ht ih

theorem of_forall₂ (h : List.Forall₂ s.Leaves ss ss') : Loses wanted s ss ss' 0 := by
  simpa using keepAll h .nil

theorem forall₂ (h : Loses wanted s ss ss' 0) : List.Forall₂ s.Leaves ss ss' := by
  generalize hn : 0 = n at h
  induction h with
  | nil => exact .nil
  | keep ht _ ih => exact .cons ht (ih hn)
  | take _ _ _ => cases hn

theorem le_countP (h : Loses wanted s ss ss' n) : n ≤ ss.countP s.isTwin := by
  induction h with
  | nil => exact Nat.zero_le _
  | keep _ _ ih =>
    rw [List.countP_cons]
    omega
  | take ht _ ih =>
    rw [List.countP_cons, List.countP_append, if_pos ht]
    omega

/-- Where a statement has no other twin, it is the one that is taken. -/
theorem of_countP_eq_one (h : Loses wanted s ss ss' n) (hs : s ∈ ss) (hn : 0 < n)
    (hcount : ss.countP s.isTwin = 1) :
    ∃ front back, ss = front ++ s :: (s.inside wanted ++ back) ∧
      List.Forall₂ s.Leaves (front ++ back) ss' := by
  induction h with
  | nil => cases hs
  | @keep t t' rest rest' n ht hrest ih =>
    have hle := hrest.le_countP
    -- a twin that stays and the one that is taken would be two
    have htwin : s.isTwin t = false := by
      by_contra htwin
      rw [List.countP_cons, if_pos (by simpa using htwin)] at hcount
      omega
    have hne : s ≠ t := by
      rintro rfl
      rw [isTwin_self] at htwin
      cases htwin
    rw [List.countP_cons, htwin] at hcount
    obtain ⟨front, back, rfl, hleaves⟩ := ih ((List.mem_cons.1 hs).resolve_left hne) hn hcount
    exact ⟨t :: front, back, rfl, .cons ht hleaves⟩
  | @take t rest rest' n ht hrest ih =>
    have hle := hrest.le_countP
    rw [List.countP_cons, List.countP_append, if_pos ht] at hcount
    have hrestcount : rest.countP s.isTwin = 0 := by omega
    have hinside : (t.inside wanted).countP s.isTwin = 0 := by omega
    have hst : s = t := by
      rcases List.mem_cons.1 hs with hst | hs
      · exact hst
      · have hzero : (t.inside wanted ++ rest).countP s.isTwin = 0 := by
          rw [List.countP_append, hinside, hrestcount]
        exact absurd s.isTwin_self (List.countP_eq_zero.1 hzero s hs)
    subst hst
    obtain rfl : n = 0 := by omega
    exact ⟨[], rest, rfl, hrest.forall₂⟩

end Loses
end Statement

namespace Program

open Statement (Loses)

variable {wanted : String → Bool} {p q : Program} {s : Statement} {key : Key}

theorem loses_dropImports (hwanted : wanted key.source = true) (specifiers : List Tree)
    (items : List Tree) :
    Loses wanted (.importing key specifiers) (items.flatMap (Tree.statements wanted))
      ((items.filter fun item => item.importKey? != some key).flatMap (Tree.statements wanted))
      (items.countP fun item => item.importKey? == some key) := by
  induction items with
  | nil => exact .nil
  | cons item rest ih =>
    rw [List.flatMap_cons, List.countP_cons]
    by_cases hkey : item.importKey? = some key
    · have hown : item.statements wanted = [.importing key (item.part 0).items] := by
        rw [Tree.statements_of_importKey? hkey, if_pos hwanted]
      rw [hown, if_pos (by simpa using hkey), List.filter_cons_of_neg (by simpa using hkey)]
      exact .take (beq_self_eq_true key) ih
    · rw [if_neg (by simpa using hkey), List.filter_cons_of_pos (by simpa using hkey),
        List.flatMap_cons]
      exact .keepAll (List.forall₂_same.2 fun _ _ => rfl) ih

theorem leaves_tidied (key : Key) (target : Tree) (ss : List Statement) :
    List.Forall₂ (Statement.requiring key target).Leaves ss (ss.map Statement.tidied) :=
  List.forall₂_map_right_iff.2 (List.forall₂_same.2 fun s _ => ⟨s, .refl key s, rfl⟩)

theorem loses_dropRequire? (h : p.dropRequire? key = some q) (hwanted : wanted key.source = true)
    (target : Tree) :
    Loses wanted (.requiring key target) (p.statements wanted) (q.tidy.statements wanted) 1 := by
  obtain ⟨front, front', own, back, hp, hq, hdropped⟩ := dropped_of_dropRequire? h hwanted
  rw [statements_tidy, hp, hq, List.map_append]
  refine .keepAll ?_ (.take (beq_self_eq_true key) (.of_forall₂ (leaves_tidied key target back)))
  exact List.forall₂_map_right_iff.2 (hdropped.imp fun _ u hu => ⟨u, hu, rfl⟩)

theorem length_dropImports (key : Key) (p : Program) :
    (p.dropImports key).body.length + p.body.countP (fun item => item.importKey? == some key) =
      p.body.length := by
  have hsplit := List.length_eq_countP_add_countP
    (fun item : Tree => item.importKey? != some key) (l := p.body)
  have hnot : (fun item : Tree => decide ¬(item.importKey? != some key) = true) =
      fun item => item.importKey? == some key := by
    funext item
    cases hkey : item.importKey? == some key <;> simp [bne, hkey]
  rw [hnot, List.countP_eq_length_filter] at hsplit
  exact hsplit.symm

theorem loses_remove (hwanted : wanted s.source = true) (p : Program) :
    ∃ n, Loses wanted s (p.statements wanted) ((p.remove s).1.statements wanted) n ∧
      ((p.remove s).2 = true ↔ 0 < n) ∧
      (s.outline.isImport = true → p.isModule = true →
        n = p.body.countP fun item => item.importKey? == some s.key) ∧
      (s.outline.isImport = false → n ≤ 1) := by
  cases s with
  | importing key specifiers =>
    by_cases hmodule : p.isModule = true
    · simp only [remove, hmodule, if_true]
      refine ⟨p.body.countP fun item => item.importKey? == some key, ?_, ?_, fun _ _ => rfl, ?_⟩
      · rw [statements_eq, statements_eq]
        exact loses_dropImports hwanted specifiers p.body
      · have hlength := length_dropImports key p
        rw [bne_iff_ne]
        omega
      · intro hform
        cases hform
    · simp only [remove, hmodule]
      refine ⟨0, .of_forall₂ (List.forall₂_same.2 fun _ _ => rfl), by simp, ?_, ?_⟩
      · intro _ hfalse
        cases hfalse
      · intro hform
        cases hform
  | requiring key target =>
    cases hdrop : p.dropRequire? key with
    | none =>
      simp only [remove, hdrop]
      rw [statements_tidy]
      refine ⟨0, .of_forall₂ (leaves_tidied key target _), by simp, ?_, fun _ => Nat.zero_le 1⟩
      intro hform
      cases hform
    | some q =>
      simp only [remove, hdrop]
      refine ⟨1, loses_dropRequire? hdrop hwanted target, by simp, ?_, fun _ => Nat.le_refl 1⟩
      intro hform
      cases hform

/-- The removal of the statement that was found takes twins of it and nothing else: of an import all
among the items, of a `require` one at most. Where the statement has no other twin, a successful
removal takes the statement itself. -/
theorem remove_of_found {handled : List Key} (h : p.firstStatement? wanted handled = some s) :
    (∃ n, Loses wanted s (p.statements wanted) ((p.remove s).1.statements wanted) n ∧
        ((p.remove s).2 = true ↔ 0 < n) ∧
        (s.outline.isImport = true → p.isModule = true →
          n = p.body.countP fun item => item.importKey? == some s.key) ∧
        (s.outline.isImport = false → n ≤ 1)) ∧
      ((p.statements wanted).countP s.isTwin = 1 → (p.remove s).2 = true →
        ∃ front back, p.statements wanted = front ++ s :: (s.inside wanted ++ back) ∧
          List.Forall₂ s.Leaves (front ++ back) ((p.remove s).1.statements wanted)) := by
  have hs := (mem_of_firstStatement? h).1
  obtain ⟨n, hloses, hremoved, hall, hone⟩ := loses_remove (wanted_of_mem_statements hs) p
  refine ⟨⟨n, hloses, hremoved, hall, hone⟩, ?_⟩
  intro hcount htrue
  exact hloses.of_countP_eq_one hs (hremoved.1 htrue) hcount

/-- The statement goes, and with it the one inside. -/
theorem remove_nestedProgram : ∃ s,
    Expansion.nestedProgram.firstStatement? isMacroName [] = some s ∧
    ∃ front back,
      Expansion.nestedProgram.statements isMacroName =
        front ++ s :: (s.inside isMacroName ++ back) ∧
      List.Forall₂ s.Leaves (front ++ back)
        ((Expansion.nestedProgram.remove s).1.statements isMacroName) := by
  obtain ⟨s, hfound⟩ : ∃ s, Expansion.nestedProgram.firstStatement? isMacroName [] = some s :=
    ⟨_, rfl⟩
  have hremove := remove_of_found hfound
  cases hfound
  exact ⟨_, rfl, hremove.2 rfl rfl⟩

/-! ## What is not taken by itself -/

/-- A removal that reports a success takes just the occurrence that was found, the first one whose
key is not handled; any other takes nothing. -/
def TakesFound (p : Program) : Prop :=
  ∀ wanted handled s, p.firstStatement? wanted handled = some s →
    (p.remove s).1.statements wanted =
      if (p.remove s).2 then (p.statements wanted).eraseP fun t => !handled.contains t.key
      else p.statements wanted

def twinImports : Program := ⟨true, Span.none, .null, [
  .importOf ⟨⟨1, 9⟩, "a.macro"⟩ ⟨"a", 2, ⟨1, 2⟩, false⟩,
  .importOf ⟨⟨1, 9⟩, "a.macro"⟩ ⟨"b", 2, ⟨1, 2⟩, false⟩]⟩

/-- Two requires of one key, the first one in the value of a declarator before the second one, as in
`const f = function () { const a = require("a.macro"); }, b = require("a.macro");`. -/
def twinRequires : Program := ⟨false, Span.none, .null, [.constOf [
  .node .variableDeclarator ⟨10, 20⟩ [] [.binder ⟨"f", 2, ⟨10, 11⟩, false⟩ .absent,
    .node .functionExpression ⟨12, 20⟩ [] [.absent, .seq [], .node .block ⟨12, 20⟩ [] [.seq [
      .constOf [.requireOf ⟨⟨1, 9⟩, "a.macro"⟩ (.binder ⟨"a", 3, ⟨1, 2⟩, false⟩ .absent)]]]]],
  .requireOf ⟨⟨1, 9⟩, "a.macro"⟩ (.binder ⟨"b", 2, ⟨1, 2⟩, false⟩ .absent)]]⟩

/-- Both twins go; the other one goes; a statement inside goes; a statement that stays is tidied. -/
theorem not_takesFound :
    ¬TakesFound twinImports ∧ ¬TakesFound twinRequires ∧
      ¬TakesFound Expansion.nestedProgram ∧ ¬TakesFound Expansion.hollowProgram := by
  refine ⟨?_, ?_, ?_, ?_⟩
  · intro h
    have hafter := h isMacroName [] _ rfl
    have hlength : 0 = 1 := congrArg List.length hafter
    cases hlength
  · intro h
    have hafter : [Statement.requiring ⟨⟨1, 9⟩, "a.macro"⟩
          (.binder ⟨"a", 3, ⟨1, 2⟩, false⟩ .absent)] =
        [.requiring ⟨⟨1, 9⟩, "a.macro"⟩ (.binder ⟨"b", 2, ⟨1, 2⟩, false⟩ .absent)] :=
      h isMacroName [] _ rfl
    simp at hafter
  · intro h
    have hafter := h isMacroName [] _ rfl
    have hlength : 0 = 1 := congrArg List.length hafter
    cases hlength
  · intro h
    have hafter : [Statement.requiring ⟨⟨1, 9⟩, "a.macro"⟩
          (.binder ⟨"a", 2, ⟨1, 2⟩, false⟩ (Expansion.functionTypeWith []))] =
        [.requiring ⟨⟨1, 9⟩, "a.macro"⟩
          (.binder ⟨"a", 2, ⟨1, 2⟩, false⟩ (Expansion.functionTypeWith [.constOf []]))] :=
      h isMacroName [⟨⟨1, 9⟩, "a.macro"⟩] _ rfl
    simp [Expansion.functionTypeWith] at hafter

end Program
end ImportMacros
