import ImportMacros.Proofs.Removal
import ImportMacros.Proofs.Seat

/-!
# ImportMacros.Proofs.Deletion

What the removal of a `require` does to the program. `Program.without p a k` is the program without
declarator `k` of the declaration at `a`, where a declaration of that declarator alone goes as its
seat tells.

* `tidy_erase`: to erase the declarator and tidy comes to just that, if the program had nothing to
  clear away.
* `remove_of_places`: so the removal of a `require` whose key stands at one place touches nothing
  else.
* `anyHasEmptied_remove_iff`: a declaration that declares nothing is left in one case, if the
  declarator was alone and the seat of its declaration is not cleared, as the head of a for-in or
  for-of loop.
-/

namespace ImportMacros

namespace Tree

def isLone : Tree → Bool
  | .node .variableDeclaration _ _ [.seq [_]] => true
  | _ => false

theorem isLone_split (span : Span) (data : Fields) (front : List Tree) (d : Tree)
    (back : List Tree) :
    (Tree.node .variableDeclaration span data [.seq (front ++ d :: back)]).isLone =
      (front ++ back).isEmpty := by
  cases front with
  | nil => cases back <;> rfl
  | cons x rest => cases rest <;> rfl

theorem exists_of_isLone {t : Option Tree} (h : t.any isLone = true) :
    ∃ span data d, t = some (.node .variableDeclaration span data [.seq [d]]) := by
  cases t with
  | none => cases h
  | some t =>
    rw [Option.any_some] at h
    unfold isLone at h
    split at h
    · exact ⟨_, _, _, rfl⟩
    · cases h

variable {t x : Tree} {a : Address}

theorem hasEmptied_of_at? (h : t.hasEmptied = false) (hat : t.at? a = some x) :
    x.hasEmptied = false := by
  induction a generalizing t with
  | nil =>
    cases hat
    exact h
  | cons i rest ih =>
    obtain ⟨child, hchild, hbelow⟩ := at?_cons_eq_some.1 hat
    exact ih (hasEmptied_of_mem_children h (List.mem_of_getElem? hchild)) hbelow

/-- An item that declares nothing goes from its list. -/
theorem settle_list_of_isEmptiedItem {front back : List Tree} {u : Tree}
    (h : (Tree.seq (front ++ x :: back)).hasEmptied = false)
    (hu : u.tidy.isEmptiedItem = true) :
    Seat.list.settle (Tree.seq (front ++ u :: back)).tidy = .seq (front ++ back) := by
  obtain ⟨hfront, hback⟩ := hasEmptied_of_split h rfl
  have hdropped :
      dropEmptied (front ++ u.tidy :: back) = dropEmptied front ++ dropEmptied back := by
    simp [dropEmptied, hu]
  rw [tidy, tidyAll_split hfront hback, Seat.settle, tidyList, hdropped,
    dropEmptied_eq_self hfront, dropEmptied_eq_self hback]

theorem hasEmptied_declaration (span : Span) (data : Fields) (declarators : List Tree) :
    (Tree.node .variableDeclaration span data [.seq declarators]).hasEmptied =
      (declarators.isEmpty || declarators.any hasEmptied) := by
  cases declarators <;> simp [hasEmptied, anyHasEmptied, anyHasEmptied_eq, isEmptied]

theorem node_ne_seq_nil {kind : Kind} {span : Span} {data : Fields} {parts : List Tree} :
    Tree.node kind span data parts ≠ .seq [] := by
  intro heq
  cases heq

theorem holds_of_not_hasEmptied (seat : Seat) (h : t.hasEmptied = false)
    (hlist : t ≠ .seq []) : seat.Holds t := by
  cases seat with
  | list => trivial
  | item => exact isEmptiedItem_of_not_hasEmptied h
  | exported => exact isEmptied_of_not_hasEmptied h
  | _ => exact hlist

end Tree

def Seat.isCleared : Seat → Bool
  | .item => true
  | .exported => true
  | .body => true
  | .head => true
  | _ => false

namespace Program

/-- The seat of the subtree at an address. The items of a program are a list of statements. -/
def seat (p : Program) (a : Address) : Seat := Tree.seatAt .list p.tree a

def erase (p : Program) (a : Address) : Program := { p with body := (Tree.eraseAt a p.tree).items }

def put (p : Program) (a : Address) (t : Tree) : Program :=
  { p with body := (Tree.putAt t a p.tree).items }

/-- A program without one declarator of the declaration at an address. The last one takes the
declaration along: out of a list of statements, together with an `export` around it; out of a body,
where an empty statement stays; out of the head of a for loop. From anywhere else the declaration
does not go. -/
def without (p : Program) (a : Address) (k : Nat) : Program :=
  if (p.tree.at? a).any Tree.isLone then
    match p.seat a with
    | .item => p.erase a
    | .exported => p.erase a.dropLast
    | .body => p.put a Tree.emptyStatement
    | .head => p.put a .absent
    | _ => p.erase (a ++ [0, k])
  else p.erase (a ++ [0, k])

variable {p : Program} {key : Key} {a : Address} {k : Nat} {span : Span} {data : Fields}
  {declarators : List Tree}

theorem tree_erase (p : Program) (a : Address) : (p.erase a).tree = Tree.eraseAt a p.tree := by
  rcases List.eq_nil_or_concat a with rfl | ⟨front, i, rfl⟩
  · rfl
  · rw [erase, List.concat_eq_append, Tree.eraseAt_concat]
    cases front <;> rfl

/-- Tidying makes `t` of a program; `left` tells whether a declaration that declares nothing is left
in it. -/
structure TidiesTo (q : Program) (t : Tree) (left : Bool) : Prop where
  tree : Tree.seq q.tidy.body = t
  hasEmptied : t.hasEmptied = left

theorem tidiesTo_of_edit {q : Program} {f : Tree → Tree} {b : Address} {x u : Tree}
    (hfull : Tree.anyHasEmptied p.body = false) (hq : q.tree = Tree.editAt f a p.tree)
    (hat : p.tree.at? a = some x) (hplace : a ++ b ∈ Tree.places key p.tree)
    (hu : (p.seat a).settle (f x).tidy = u) (hholds : (p.seat a).Holds u) :
    TidiesTo q (Tree.putAt u a p.tree) u.hasEmptied := by
  have htidy : Tree.seq q.tidy.body = Seat.list.settle q.tree.tidy := rfl
  refine ⟨?_, Tree.hasEmptied_putAt (t := p.tree) hfull hat hplace hholds⟩
  rw [htidy, hq]
  exact Tree.settle_editAt f hfull hat hplace hu hholds

theorem tidiesTo_of_item {q : Program} {f : Tree → Tree} {b : Address} {v : Tree}
    (hfull : Tree.anyHasEmptied p.body = false) (hq : q.tree = Tree.editAt f a p.tree)
    (hseat : p.seat a = .item) (hat : p.tree.at? a = some v)
    (hplace : a ++ b ∈ Tree.places key p.tree) (hv : (f v).tidy.isEmptiedItem = true) :
    TidiesTo q (Tree.eraseAt a p.tree) false := by
  obtain ⟨above, front, back, rfl, hlist, habove, herase⟩ := Tree.exists_list_of_item hseat hat
  have hempty : (Tree.seq (front ++ v :: back)).hasEmptied = false :=
    Tree.hasEmptied_of_at? (t := p.tree) hfull habove
  have hless : (Tree.seq (front ++ back)).hasEmptied = false := by
    rw [Tree.hasEmptied, Tree.anyHasEmptied_eq] at hempty ⊢
    simp_all
  have hseat' : p.seat above = .list := hlist
  rw [Tree.editAt_append] at hq
  rw [List.append_assoc] at hplace
  rw [herase, ← hless]
  refine tidiesTo_of_edit hfull hq habove hplace ?_ ?_
  · rw [hseat', Tree.editAt_seq]
    exact Tree.settle_list_of_isEmptiedItem hempty hv
  · rw [hseat']
    trivial

/-- The only declarator: what becomes of the emptied declaration in its seat. -/
theorem tidiesTo_erase_lone {d : Tree} (hfull : Tree.anyHasEmptied p.body = false)
    (hat : p.tree.at? a = some (.node .variableDeclaration span data [.seq [d]]))
    (hplace : a ++ [0, 0] ∈ Tree.places key p.tree) :
    TidiesTo (p.erase (a ++ [0, 0]))
      (match p.seat a with
        | .item => Tree.eraseAt a p.tree
        | .exported => Tree.eraseAt a.dropLast p.tree
        | .body => Tree.putAt Tree.emptyStatement a p.tree
        | .head => Tree.putAt .absent a p.tree
        | _ => Tree.eraseAt (a ++ [0, 0]) p.tree)
      (!(p.seat a).isCleared) := by
  have hq : (p.erase (a ++ [0, 0])).tree = Tree.editAt (Tree.eraseAt [0, 0]) a p.tree := by
    rw [tree_erase, Tree.eraseAt_append a (by simp)]
  let left := Tree.node .variableDeclaration span data [.seq []]
  have hleft : Tree.eraseAt [0, 0] (.node .variableDeclaration span data [.seq [d]]) = left := rfl
  have herase : Tree.eraseAt (a ++ [0, 0]) p.tree = Tree.putAt left a p.tree := by
    rw [Tree.eraseAt_append a (by simp), Tree.editAt_eq_putAt hat, hleft]
  -- outside of lists the declaration stays, or something else stands there instead
  have hstays : ∀ u, (p.seat a).settle left = u → (p.seat a).Holds u →
      TidiesTo (p.erase (a ++ [0, 0])) (Tree.putAt u a p.tree) u.hasEmptied := by
    intro u hu hholds
    exact tidiesTo_of_edit hfull hq hat hplace hu hholds
  cases hseat : p.seat a with
  | item => exact tidiesTo_of_item hfull hq hseat hat hplace rfl
  | exported =>
    obtain ⟨above, span', data', rfl, hitem, habove⟩ := Tree.exists_item_of_exported hseat hat
    rw [Tree.editAt_append] at hq
    rw [List.append_assoc] at hplace
    rw [List.dropLast_concat]
    exact tidiesTo_of_item hfull hq hitem habove hplace rfl
  | body =>
    rw [hseat] at hstays
    exact hstays Tree.emptyStatement rfl Tree.node_ne_seq_nil
  | head =>
    rw [hseat] at hstays
    exact hstays .absent rfl fun heq => by cases heq
  | list =>
    rw [hseat] at hstays
    rw [herase]
    exact hstays left rfl trivial
  | target =>
    rw [hseat] at hstays
    rw [herase]
    exact hstays left rfl Tree.node_ne_seq_nil
  | elsewhere =>
    rw [hseat] at hstays
    rw [herase]
    exact hstays left rfl Tree.node_ne_seq_nil

theorem tidiesTo_erase_more {front back : List Tree} {d : Tree} (hmore : front ++ back ≠ [])
    (hfull : Tree.anyHasEmptied p.body = false)
    (hat : p.tree.at? a =
      some (.node .variableDeclaration span data [.seq (front ++ d :: back)]))
    (hplace : a ++ [0, front.length] ∈ Tree.places key p.tree) :
    TidiesTo (p.erase (a ++ [0, front.length])) (Tree.eraseAt (a ++ [0, front.length]) p.tree)
      false := by
  have hempty := Tree.hasEmptied_of_at? (t := p.tree) hfull hat
  let less := Tree.node .variableDeclaration span data [.seq (front ++ back)]
  have hless : less.hasEmptied = false := by
    rw [Tree.hasEmptied_declaration] at hempty ⊢
    simp_all
  have hq : (p.erase (a ++ [0, front.length])).tree =
      Tree.editAt (Tree.eraseAt [0, front.length]) a p.tree := by
    rw [tree_erase, Tree.eraseAt_append a (by simp)]
  have hu : (p.seat a).settle (Tree.eraseAt [0, front.length]
      (.node .variableDeclaration span data [.seq (front ++ d :: back)])).tidy = less := by
    rw [Tree.eraseAt_declarator, Tree.tidy_eq_self hless, Tree.settle_eq_self _ hless]
  have hholds : (p.seat a).Holds less :=
    Tree.holds_of_not_hasEmptied _ hless Tree.node_ne_seq_nil
  rw [Tree.eraseAt_append a (by simp), Tree.editAt_eq_putAt hat, Tree.eraseAt_declarator]
  have htidies := tidiesTo_of_edit hfull hq hat hplace hu hholds
  rwa [hless] at htidies

theorem exists_split_of_place
    (hat : p.tree.at? a = some (.node .variableDeclaration span data [.seq declarators]))
    (hplace : a ++ [0, k] ∈ Tree.places key p.tree) :
    ∃ front d back, declarators = front ++ d :: back ∧ front.length = k := by
  obtain ⟨d, hd, -⟩ := Tree.at?_of_mem_places hplace
  rw [Tree.at?_append hat, Tree.at?_cons rfl] at hd
  obtain ⟨child, hchild, hnil⟩ := Tree.at?_cons_eq_some.1 hd
  cases hnil
  have hdeclarator : declarators[k]? = some d := hchild
  obtain ⟨front, back, rfl, rfl⟩ := Tree.exists_split_of_getElem? hdeclarator
  exact ⟨front, d, back, rfl, rfl⟩

theorem any_isLone {front back : List Tree} {d : Tree} (hat : p.tree.at? a =
      some (.node .variableDeclaration span data [.seq (front ++ d :: back)])) :
    (p.tree.at? a).any Tree.isLone = (front ++ back).isEmpty := by
  rw [hat, Option.any_some, Tree.isLone_split]

theorem TidiesTo.eq {b : Address} {t : Tree} {left : Bool} (h : TidiesTo (p.erase b) t left) :
    (p.erase b).tidy = { p with body := t.items } ∧
      Tree.anyHasEmptied (p.erase b).tidy.body = left := by
  obtain ⟨rfl, hleft⟩ := h
  exact ⟨rfl, hleft⟩

/-- To erase a declarator and tidy touches nothing but its declaration. A declaration that declares
nothing is left just where the seat of a declaration with one declarator is not cleared. -/
theorem tidy_erase (hfull : Tree.anyHasEmptied p.body = false)
    (hat : p.tree.at? a = some (.node .variableDeclaration span data [.seq declarators]))
    (hplace : a ++ [0, k] ∈ Tree.places key p.tree) :
    (p.erase (a ++ [0, k])).tidy = p.without a k ∧
      Tree.anyHasEmptied (p.erase (a ++ [0, k])).tidy.body =
        ((p.tree.at? a).any Tree.isLone && !(p.seat a).isCleared) := by
  obtain ⟨front, d, back, rfl, rfl⟩ := exists_split_of_place hat hplace
  by_cases hmore : front ++ back = []
  · obtain ⟨rfl, rfl⟩ := List.append_eq_nil_iff.1 hmore
    have hlone : (p.tree.at? a).any Tree.isLone = true := any_isLone hat
    obtain ⟨heq, hleft⟩ := (tidiesTo_erase_lone hfull hat hplace).eq
    rw [without, if_pos hlone, hlone, Bool.true_and]
    refine ⟨heq.trans ?_, hleft⟩
    cases p.seat a <;> rfl
  · have hlone : (p.tree.at? a).any Tree.isLone = false :=
      (any_isLone hat).trans (List.isEmpty_eq_false_iff.2 hmore)
    rw [without, if_neg (Bool.eq_false_iff.1 hlone), hlone, Bool.false_and]
    exact (tidiesTo_erase_more hmore hfull hat hplace).eq

/-! ## Removal -/

theorem exists_place_of_dropRequire? {q : Program} (h : p.dropRequire? key = some q) :
    ∃ a k span data declarators,
      p.tree.at? a = some (.node .variableDeclaration span data [.seq declarators]) ∧
      a ++ [0, k] ∈ Tree.places key p.tree ∧ q = p.erase (a ++ [0, k]) := by
  obtain ⟨a, k, span, data, declarators, hat, hplace, hedit⟩ :=
    (drops_seq_of_dropRequire? h).exists_place
  refine ⟨a, k, span, data, declarators, hat, hplace, ?_⟩
  obtain ⟨body, -, rfl⟩ := Option.map_eq_some_iff.1 h
  rw [erase, Tree.eraseAt_append a (by simp), tree, ← hedit]
  rfl

/-- If the key of a `require` stands at one place, its removal touches nothing but the declaration
there. -/
theorem remove_of_places (hfull : Tree.anyHasEmptied p.body = false)
    (hat : p.tree.at? a = some (.node .variableDeclaration span data [.seq declarators]))
    (hplaces : Tree.places key p.tree = [a ++ [0, k]]) (target : Tree) :
    p.remove (.requiring key target) = (p.without a k, true) := by
  have hplace : a ++ [0, k] ∈ Tree.places key p.tree := by
    rw [hplaces]
    exact List.mem_singleton_self _
  obtain ⟨u, hu⟩ := Tree.exists_dropRequire?_of_place hat hplace
  obtain ⟨body, hbody, -⟩ := Option.map_eq_some_iff.1 hu
  have hdrop : p.dropRequire? key = some { p with body := body } :=
    Option.map_eq_some_iff.2 ⟨body, hbody, rfl⟩
  obtain ⟨a', k', span', data', declarators', hat', hplace', hq⟩ :=
    exists_place_of_dropRequire? hdrop
  rw [hplaces, List.mem_singleton] at hplace'
  obtain ⟨rfl, htail⟩ := List.append_inj' hplace' rfl
  cases htail
  rw [remove, hdrop, hq]
  exact congrArg (·, true) (tidy_erase hfull hat hplace).1

/-- `export const f = require("x.macro")` alone, in a module that uses `f`. -/
def exportingProgram : Program :=
  ⟨true, Span.none, .null, [
    .useOf ⟨"f", 2, ⟨1, 2⟩, false⟩,
    .node .exportDeclaration Span.none [] [.constOf [
      .requireOf ⟨⟨3, 9⟩, "x.macro"⟩ (.binder ⟨"f", 2, ⟨3, 4⟩, false⟩ .absent)]],
    .useOf ⟨"f", 2, ⟨10, 11⟩, false⟩]⟩

theorem remove_exportingProgram :
    Tree.anyHasEmptied exportingProgram.body = false ∧
      Tree.places ⟨⟨3, 9⟩, "x.macro"⟩ exportingProgram.tree = [[1, 0] ++ [0, 0]] ∧
      exportingProgram.remove
          (.requiring ⟨⟨3, 9⟩, "x.macro"⟩ (.binder ⟨"f", 2, ⟨3, 4⟩, false⟩ .absent)) =
        (⟨true, Span.none, .null,
          [.useOf ⟨"f", 2, ⟨1, 2⟩, false⟩, .useOf ⟨"f", 2, ⟨10, 11⟩, false⟩]⟩, true) := by
  have hfull : Tree.anyHasEmptied exportingProgram.body = false := by decide
  have hplaces : Tree.places ⟨⟨3, 9⟩, "x.macro"⟩ exportingProgram.tree = [[1, 0] ++ [0, 0]] := by
    decide
  exact ⟨hfull, hplaces, remove_of_places (a := [1, 0]) (k := 0) hfull rfl hplaces _⟩

theorem tidy_eq_self (hfull : Tree.anyHasEmptied p.body = false) : p.tidy = p := by
  have hitems : ∀ t ∈ p.body, t.hasEmptied = false := by
    simpa [Tree.anyHasEmptied_eq] using hfull
  rw [tidy, Tree.tidyAll_eq_self fun t ht => Tree.tidy_eq_self (hitems t ht),
    Tree.dropEmptied_eq_self hitems]

/-- After the removal of a `require` there is a declaration that declares nothing just if the
declarator was alone in a declaration whose seat is not cleared. -/
theorem anyHasEmptied_remove_iff (hfull : Tree.anyHasEmptied p.body = false) (key : Key)
    (target : Tree) :
    Tree.anyHasEmptied (p.remove (.requiring key target)).1.body = true ↔
      ∃ a, (p.tree.at? a).any Tree.isLone = true ∧ (p.seat a).isCleared = false ∧
        a ++ [0, 0] ∈ Tree.places key p.tree ∧
        p.dropRequire? key = some (p.erase (a ++ [0, 0])) := by
  rw [remove]
  cases hdrop : p.dropRequire? key with
  | none =>
    simp only [tidy_eq_self hfull, hfull]
    constructor
    · intro hfalse
      cases hfalse
    · rintro ⟨a, -, -, -, hnone⟩
      cases hnone
  | some q =>
    constructor
    · intro hleft
      obtain ⟨a, k, span, data, declarators, hat, hplace, rfl⟩ :=
        exists_place_of_dropRequire? hdrop
      simp only [(tidy_erase hfull hat hplace).2, Bool.and_eq_true, Bool.not_eq_true'] at hleft
      obtain ⟨hlone, hseat⟩ := hleft
      obtain ⟨front, d, back, rfl, rfl⟩ := exists_split_of_place hat hplace
      have hfront : front = [] := by
        rw [any_isLone hat, List.isEmpty_iff] at hlone
        exact (List.append_eq_nil_iff.1 hlone).1
      subst hfront
      exact ⟨a, hlone, hseat, hplace, rfl⟩
    · rintro ⟨a, hlone, hseat, hplace, hq⟩
      cases hq
      obtain ⟨span, data, d, hat⟩ := Tree.exists_of_isLone hlone
      simp only [(tidy_erase hfull hat hplace).2, hlone, hseat, Bool.not_false, Bool.and_true]

/-- `for (var x = require("x.macro") in o);`, in a script. -/
def enumeratingProgram : Program :=
  ⟨false, Span.none, .null, [.node .forInStatement Span.none [] [
    .constOf [.requireOf ⟨⟨1, 9⟩, "x.macro"⟩ (.binder ⟨"x", 2, ⟨1, 2⟩, false⟩ .absent)],
    .use ⟨"o", 1, ⟨12, 13⟩, false⟩, .emptyStatement]]⟩

theorem anyHasEmptied_remove_enumeratingProgram :
    Tree.anyHasEmptied enumeratingProgram.body = false ∧
      Tree.anyHasEmptied (enumeratingProgram.remove
        (.requiring ⟨⟨1, 9⟩, "x.macro"⟩ (.binder ⟨"x", 2, ⟨1, 2⟩, false⟩ .absent))).1.body =
          true := by
  have hfull : Tree.anyHasEmptied enumeratingProgram.body = false := by decide
  exact ⟨hfull, (anyHasEmptied_remove_iff hfull _ _).2 ⟨[0, 0], rfl, rfl, by decide, rfl⟩⟩

theorem not_remove_leaves_none :
    ¬∀ (p : Program) (wanted : String → Bool) (handled : List Key) (key : Key) (target : Tree),
      Tree.anyHasEmptied p.body = false →
      p.firstStatement? wanted handled = some (.requiring key target) →
      Tree.anyHasEmptied (p.remove (.requiring key target)).1.body = false := by
  intro h
  have hnone := h enumeratingProgram isMacroName [] ⟨⟨1, 9⟩, "x.macro"⟩
    (.binder ⟨"x", 2, ⟨1, 2⟩, false⟩ .absent) (by decide) rfl
  exact absurd hnone (by decide)

end Program
end ImportMacros
