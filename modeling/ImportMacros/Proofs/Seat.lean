import ImportMacros.Proofs.Edit

/-!
# ImportMacros.Proofs.Seat

What tidying makes of one declaration that has come to declare nothing. It depends on the seat of
the declaration: whether it is an item of a list of statements, exported, the only statement of a
body, or the head of a loop (`Kind.seats`, `Tree.seatAt`).

`settle_editAt` is the main statement. Where nothing is to be cleared away, tidying a tree that was
changed at one address changes it at that address only: `Seat.settle` is what tidying makes of the
new subtree in its seat.
-/

namespace ImportMacros

/-- What a tree stands for in the tree around it, as far as clearing away goes. -/
inductive Seat where
  | list
  | item
  /-- The declaration of an export that is such an item. -/
  | exported
  | body
  /-- The head of a for loop. -/
  | head
  /-- What the head of a for-in or for-of loop declares or assigns. -/
  | target
  /-- Anything else; the grammar has no declaration of variables there. -/
  | elsewhere
deriving DecidableEq, Repr

def Kind.seats : Kind → List Seat
  | .block => [.list]
  | .moduleBlock => [.list]
  | .switchCase => [.elsewhere, .list]
  | .exportDeclaration => [.exported]
  | .ifStatement => [.elsewhere, .body, .body]
  | .labeledStatement => [.elsewhere, .body]
  | .whileStatement => [.elsewhere, .body]
  | .doWhileStatement => [.elsewhere, .body]
  | .withStatement => [.elsewhere, .body]
  | .forStatement => [.head, .elsewhere, .elsewhere, .body]
  | .forInStatement => [.target, .elsewhere, .body]
  | .forOfStatement => [.target, .elsewhere, .body]
  | _ => []

def Kind.seat (kind : Kind) (count i : Nat) : Seat :=
  if count = kind.seats.length then kind.seats.getD i .elsewhere else .elsewhere

namespace Seat

/-- What tidying makes of a tidy tree in a seat, with the seat left in place. -/
def settle : Seat → Tree → Tree
  | .list, t => t.tidyList
  | .body, t => t.tidyBody
  | .head, t => if t.isEmptied then .absent else t
  | _, t => t

def below (seat : Seat) : Tree → Nat → Seat
  | .seq _, _ => if seat = .list then .item else .elsewhere
  | .node kind _ _ parts, i =>
    let own := kind.seat parts.length i
    if own = .exported ∧ seat ≠ .item then .elsewhere else own
  | _, _ => .elsewhere

/-- Whether tidying leaves a tree in its seat when it is done with it. -/
def Holds : Seat → Tree → Prop
  | .list, _ => True
  | .item, t => t.isEmptiedItem = false
  | .exported, t => t.isEmptied = false
  | _, t => t ≠ .seq []

end Seat

namespace Tree

def seatAt (seat : Seat) : Tree → Address → Seat
  | _, [] => seat
  | t, i :: rest =>
    match t.children[i]? with
    | some child => seatAt (seat.below t i) child rest
    | none => .elsewhere

theorem mapIdx_eq_self {α : Type} {f : Nat → α → α} {xs : List α}
    (h : ∀ i x, xs[i]? = some x → f i x = x) : xs.mapIdx f = xs := by
  induction xs generalizing f with
  | nil => rfl
  | cons x rest ih =>
    have hx := h 0 x rfl
    have hrest : rest.mapIdx (fun i => f (i + 1)) = rest :=
      ih fun i y hy => h (i + 1) y (by simpa using hy)
    rw [List.mapIdx_cons, hx, hrest]

theorem tidyParts_nil (kind : Kind) : tidyParts kind [] = [] := by
  unfold tidyParts
  split <;> first | rfl | simp_all

/-- Tidying the subtrees of a node is settling each of them in its seat. -/
theorem tidyParts_eq (kind : Kind) (parts : List Tree) :
    tidyParts kind parts = parts.mapIdx fun i t => (kind.seat parts.length i).settle t := by
  rcases eq_or_ne parts [] with rfl | hparts
  · exact tidyParts_nil kind
  · by_cases hcount : parts.length = kind.seats.length
    · -- kinds with seats have just as many subtrees, all others have no seats
      unfold Kind.seats at hcount
      split at hcount <;>
        rcases parts with _ | ⟨a, _ | ⟨b, _ | ⟨c, _ | ⟨d, _ | _⟩⟩⟩⟩ <;>
        first
          | exact absurd rfl hparts
          | rfl
          | simp at hcount
    · have hself : tidyParts kind parts = parts := by
        unfold tidyParts
        split <;> first | rfl | exact absurd rfl hcount
      have hseat : ∀ i t, (kind.seat parts.length i).settle t = t := by
        intro i t
        rw [Kind.seat, if_neg hcount]
        rfl
      rw [hself]
      exact (mapIdx_eq_self fun i t _ => hseat i t).symm

theorem settle_eq_self (seat : Seat) {t : Tree} (h : t.hasEmptied = false) : seat.settle t = t := by
  cases seat with
  | list => exact tidyList_eq_self h
  | body => exact tidyBody_eq_self h
  | head => rw [Seat.settle, isEmptied_of_not_hasEmptied h, if_neg Bool.false_ne_true]
  | _ => rfl

/-- Only lists and declarations that declare nothing are changed in their seat. -/
theorem settle_of_not_isEmptied (seat : Seat) {t : Tree} (h : t.isEmptied = false)
    (hlist : ∀ items, t ≠ .seq items) : seat.settle t = t := by
  cases seat with
  | list =>
    cases t with
    | seq items => exact absurd rfl (hlist items)
    | _ => rfl
  | body => rw [Seat.settle, tidyBody, if_neg (Bool.eq_false_iff.1 h)]
  | head => rw [Seat.settle, if_neg (Bool.eq_false_iff.1 h)]
  | _ => rfl

theorem settle_seq_of_ne {seat : Seat} (h : seat ≠ .list) (items : List Tree) :
    seat.settle (.seq items) = .seq items := by
  cases seat with
  | list => exact absurd rfl h
  | _ => rfl

theorem tidyParts_split (kind : Kind) {front back : List Tree}
    (hfront : ∀ t ∈ front, t.hasEmptied = false) (hback : ∀ t ∈ back, t.hasEmptied = false)
    (t : Tree) :
    tidyParts kind (front ++ t :: back) =
      front ++ (kind.seat (front ++ t :: back).length front.length).settle t :: back := by
  rw [tidyParts_eq, List.mapIdx_append, List.mapIdx_cons]
  have hfront' : front.mapIdx (fun i u => (kind.seat (front ++ t :: back).length i).settle u) =
      front := mapIdx_eq_self fun i u hu => settle_eq_self _ (hfront u (List.mem_of_getElem? hu))
  have hback' : back.mapIdx (fun i u =>
      (kind.seat (front ++ t :: back).length (i + 1 + front.length)).settle u) = back :=
    mapIdx_eq_self fun i u hu => settle_eq_self _ (hback u (List.mem_of_getElem? hu))
  rw [hfront', hback', Nat.zero_add]

/-! ## A change at one address -/

variable {seat : Seat} {t u x : Tree} {i : Nat} {rest : Address}

theorem putAt_ne_seq_nil (hat : t.at? (i :: rest) = some x) : putAt u (i :: rest) t ≠ .seq [] := by
  obtain ⟨child, hchild, -⟩ := at?_cons_eq_some.1 hat
  intro heq
  cases isChild_of_getElem? hchild with
  | own ascription _ => cases heq
  | ascription id => cases heq
  | item front back =>
    rw [putAt, editAt_seq] at heq
    simp at heq
  | part kind span data front back =>
    rw [putAt, editAt_node] at heq
    cases heq

/-- A declaration does not come to declare nothing by a change below it. -/
theorem isEmptied_putAt (hat : t.at? (i :: rest) = some x)
    (hu : (seatAt seat t (i :: rest)).Holds u) : (putAt u (i :: rest) t).isEmptied = false := by
  obtain ⟨child, hchild, hbelow⟩ := at?_cons_eq_some.1 hat
  cases isChild_of_getElem? hchild with
  | own ascription _ => rfl
  | ascription id => rfl
  | item front back =>
    rw [putAt, editAt_seq]
    rfl
  | part kind span data front back =>
    rw [putAt, editAt_node, Bool.eq_false_iff]
    intro hemptied
    obtain ⟨span', data', heq⟩ := eq_of_isEmptied hemptied
    have hparts : kind = .variableDeclaration ∧ front = [] ∧ putAt u rest child = .seq [] := by
      cases front <;> simp_all [putAt]
    obtain ⟨rfl, rfl, hseq⟩ := hparts
    cases rest with
    | nil => exact hu hseq
    | cons j below => exact putAt_ne_seq_nil hbelow hseq

theorem isEmptiedItem_putAt {a : Address} (hat : t.at? a = some x)
    (hu : (seatAt .item t a).Holds u) : (putAt u a t).isEmptiedItem = false := by
  cases a with
  | nil => exact hu
  | cons i rest =>
    rw [Bool.eq_false_iff]
    intro hitem
    rcases eq_of_isEmptiedItem hitem with hemptied | ⟨span, data, v, hexport, hv⟩
    · rw [isEmptied_putAt hat hu] at hemptied
      cases hemptied
    · obtain ⟨child, hchild, hbelow⟩ := at?_cons_eq_some.1 hat
      cases isChild_of_getElem? hchild with
      | own ascription _ => cases hexport
      | ascription id => cases hexport
      | item front back =>
        rw [putAt, editAt_seq] at hexport
        cases hexport
      | part kind span' data' front back =>
        rw [putAt, editAt_node] at hexport
        have hparts : kind = .exportDeclaration ∧ front = [] ∧ back = [] ∧
            putAt u rest child = v := by
          cases front <;> simp_all [putAt]
        obtain ⟨rfl, rfl, rfl, rfl⟩ := hparts
        have hseat : (seatAt .exported child rest).Holds u := hu
        cases rest with
        | nil =>
          have hnot : u.isEmptied = false := hseat
          rw [putAt, editAt, hnot] at hv
          cases hv
        | cons j below =>
          rw [isEmptied_putAt hbelow hseat] at hv
          cases hv

theorem hasEmptied_of_mem_children (h : t.hasEmptied = false) {child : Tree}
    (hchild : child ∈ t.children) : child.hasEmptied = false := by
  obtain ⟨i, hi⟩ := List.mem_iff_getElem?.1 hchild
  cases isChild_of_getElem? hi with
  | own ascription hown =>
    rw [hown]
    rfl
  | ascription id => exact h
  | item front back =>
    rw [hasEmptied, anyHasEmptied_eq] at h
    simpa using List.any_eq_false.1 h child hchild
  | part kind span data front back =>
    rw [hasEmptied, Bool.or_eq_false_iff, anyHasEmptied_eq] at h
    simpa using List.any_eq_false.1 h.2 child hchild

theorem hasEmptied_of_split {front back : List Tree} {child : Tree} (h : t.hasEmptied = false)
    (ht : t.children = front ++ child :: back) :
    (∀ u ∈ front, u.hasEmptied = false) ∧ ∀ u ∈ back, u.hasEmptied = false := by
  refine ⟨fun u hu => ?_, fun u hu => ?_⟩
  · exact hasEmptied_of_mem_children h (by simp [ht, hu])
  · exact hasEmptied_of_mem_children h (by simp [ht, hu])

theorem tidyAll_split {front back : List Tree} (hfront : ∀ t ∈ front, t.hasEmptied = false)
    (hback : ∀ t ∈ back, t.hasEmptied = false) (t : Tree) :
    tidyAll (front ++ t :: back) = front ++ t.tidy :: back := by
  have hfront' := tidyAll_eq_self fun u hu => tidy_eq_self (hfront u hu)
  have hback' := tidyAll_eq_self fun u hu => tidy_eq_self (hback u hu)
  rw [tidyAll_eq] at hfront' hback'
  rw [tidyAll_eq, List.map_append, List.map_cons, hfront', hback']

theorem anyHasEmptied_split {front back : List Tree} (hfront : ∀ t ∈ front, t.hasEmptied = false)
    (hback : ∀ t ∈ back, t.hasEmptied = false) (t : Tree) :
    anyHasEmptied (front ++ t :: back) = t.hasEmptied := by
  have hfront' : front.any hasEmptied = false := List.any_eq_false.2 (by simpa using hfront)
  have hback' : back.any hasEmptied = false := List.any_eq_false.2 (by simpa using hback)
  rw [anyHasEmptied_eq, List.any_append, List.any_cons, hfront', hback', Bool.or_false,
    Bool.false_or]

/-- After a change at one address there is something to clear away if it is in the new subtree. -/
theorem hasEmptied_putAt {key : Key} {a b : Address} (h : t.hasEmptied = false)
    (hat : t.at? a = some x) (hplace : a ++ b ∈ places key t)
    (hu : (seatAt seat t a).Holds u) : (putAt u a t).hasEmptied = u.hasEmptied := by
  induction a generalizing seat t with
  | nil => rfl
  | cons i rest ih =>
    have hnot : (putAt u (i :: rest) t).isEmptied = false := isEmptied_putAt hat hu
    obtain ⟨child, hchild, hbelow, -, hplace'⟩ := exists_child_of_place hat hplace
    rw [seatAt, hchild] at hu
    have hempty := hasEmptied_of_mem_children h (List.mem_of_getElem? hchild)
    have hown := ih hempty hbelow hplace' hu
    cases isChild_of_getElem? hchild with
    | own ascription huse =>
      rw [huse] at hplace'
      cases hplace'
    | ascription id => exact hown
    | item front back =>
      obtain ⟨hfront, hback⟩ := hasEmptied_of_split h rfl
      rw [putAt, editAt_seq, hasEmptied, anyHasEmptied_split hfront hback]
      exact hown
    | part kind span data front back =>
      obtain ⟨hfront, hback⟩ := hasEmptied_of_split h rfl
      rw [putAt, editAt_node] at hnot ⊢
      rw [hasEmptied, hnot, Bool.false_or, anyHasEmptied_split hfront hback]
      exact hown

theorem settle_below (seat : Seat) (kind : Kind) (span : Span) (data : Fields)
    (parts : List Tree) (i : Nat) (u : Tree) :
    (seat.below (.node kind span data parts) i).settle u =
      (kind.seat parts.length i).settle u := by
  simp only [Seat.below]
  split
  · rename_i hexported
    rw [hexported.1]
    rfl
  · rfl

theorem settle_list_split {front back : List Tree} (hfront : ∀ v ∈ front, v.hasEmptied = false)
    (hback : ∀ v ∈ back, v.hasEmptied = false) (hu : u.isEmptiedItem = false) :
    Seat.list.settle (.seq (front ++ u :: back)) = .seq (front ++ u :: back) := by
  have hitems : dropEmptied (front ++ u :: back) = front ++ u :: back := by
    rw [dropEmptied, List.filter_append, List.filter_cons_of_pos (by simp [hu])]
    rw [← dropEmptied, ← dropEmptied, dropEmptied_eq_self hfront, dropEmptied_eq_self hback]
  rw [Seat.settle, tidyList, hitems]

/-- Tidying after a change at one address, where there was nothing to clear away before. -/
theorem settle_editAt {key : Key} {a b : Address} (f : Tree → Tree) (h : t.hasEmptied = false)
    (hat : t.at? a = some x) (hplace : a ++ b ∈ places key t)
    (hu : (seatAt seat t a).settle (f x).tidy = u) (hholds : (seatAt seat t a).Holds u) :
    seat.settle (editAt f a t).tidy = putAt u a t := by
  induction a generalizing seat t with
  | nil =>
    cases hat
    exact hu
  | cons i rest ih =>
    have hnot : (putAt u (i :: rest) t).isEmptied = false := isEmptied_putAt hat hholds
    obtain ⟨child, hchild, hbelow, himport, hplace'⟩ := exists_child_of_place hat hplace
    rw [seatAt, hchild] at hu hholds
    have hempty := hasEmptied_of_mem_children h (List.mem_of_getElem? hchild)
    have hown := ih hempty hbelow hplace' hu hholds
    cases isChild_of_getElem? hchild with
    | own ascription huse =>
      rw [huse] at hplace'
      cases hplace'
    | ascription id =>
      have htidy : (editAt f (1 :: rest) (.binder id child)).tidy =
          putAt u (1 :: rest) (.binder id child) := congrArg (Tree.binder id) hown
      rw [htidy]
      refine settle_of_not_isEmptied seat hnot ?_
      intro items heq
      cases heq
    | item front back =>
      obtain ⟨hfront, hback⟩ := hasEmptied_of_split h rfl
      rw [editAt_seq, putAt, editAt_seq, tidy, tidyAll_split hfront hback]
      by_cases hlist : seat = .list
      · subst hlist
        have hchanged : (editAt f rest child).tidy = putAt u rest child := hown
        rw [hchanged]
        exact settle_list_split hfront hback (isEmptiedItem_putAt hbelow hholds)
      · rw [Seat.below, if_neg hlist] at hown
        have hchanged : (editAt f rest child).tidy = putAt u rest child := hown
        rw [hchanged, settle_seq_of_ne hlist]
        rfl
    | part kind span data front back =>
      obtain ⟨hfront, hback⟩ := hasEmptied_of_split h rfl
      have hkind : kind ≠ .importDeclaration := by simpa [isKind] using himport
      have hcount : (front ++ (editAt f rest child).tidy :: back).length =
          (front ++ child :: back).length := by simp
      rw [settle_below] at hown
      have htidy : (editAt f (front.length :: rest) (.node kind span data
          (front ++ child :: back))).tidy =
          putAt u (front.length :: rest) (.node kind span data (front ++ child :: back)) := by
        rw [editAt_node, putAt, editAt_node, tidy, if_neg hkind, tidyAll_split hfront hback,
          tidyParts_split kind hfront hback, hcount, hown]
        rfl
      rw [htidy]
      refine settle_of_not_isEmptied seat hnot ?_
      intro items heq
      rw [putAt, editAt_node] at heq
      cases heq

/-! ## Items of lists -/

theorem seatAt_concat {a : Address} {v : Tree} {i : Nat} (hat : t.at? a = some v)
    (hchild : v.children[i]? = some x) :
    seatAt seat t (a ++ [i]) = (seatAt seat t a).below v i := by
  induction a generalizing seat t with
  | nil =>
    cases hat
    simp only [List.nil_append, seatAt, hchild]
  | cons j rest ih =>
    obtain ⟨child, hj, hbelow⟩ := at?_cons_eq_some.1 hat
    rw [List.cons_append, seatAt, hj, seatAt, hj]
    exact ih hbelow

theorem seat_ne_item (kind : Kind) (count i : Nat) : kind.seat count i ≠ .item := by
  intro heq
  unfold Kind.seat at heq
  split at heq
  · unfold Kind.seats at heq
    split at heq <;> rcases i with _ | _ | _ | _ | i <;> cases heq
  · cases heq

theorem of_seat_eq_exported {kind : Kind} {count i : Nat} (h : kind.seat count i = .exported) :
    kind = .exportDeclaration ∧ count = 1 ∧ i = 0 := by
  unfold Kind.seat at h
  split at h
  · rename_i hcount
    unfold Kind.seats at h hcount
    split at h <;> rcases i with _ | _ | _ | _ | i <;> cases h
    exact ⟨rfl, hcount, rfl⟩
  · cases h

theorem of_below_eq_item {v : Tree} {i : Nat} (h : seat.below v i = .item) :
    seat = .list ∧ ∃ items, v = .seq items := by
  cases v with
  | seq items =>
    rw [Seat.below] at h
    split at h
    · rename_i hlist
      exact ⟨hlist, items, rfl⟩
    · cases h
  | node kind span data parts =>
    simp only [Seat.below] at h
    split at h
    · cases h
    · exact absurd h (seat_ne_item kind _ i)
  | _ => cases h

theorem of_below_eq_exported {v : Tree} {i : Nat} (h : seat.below v i = .exported) :
    seat = .item ∧ i = 0 ∧ ∃ span data own, v = .node .exportDeclaration span data [own] := by
  cases v with
  | seq items =>
    rw [Seat.below] at h
    split at h <;> cases h
  | node kind span data parts =>
    simp only [Seat.below] at h
    split at h
    · cases h
    · rename_i hnot
      have hitem : seat = .item := by
        by_contra hne
        exact hnot ⟨h, hne⟩
      obtain ⟨rfl, hcount, rfl⟩ := of_seat_eq_exported h
      obtain ⟨own, rfl⟩ := List.length_eq_one_iff.1 hcount
      exact ⟨hitem, rfl, span, data, own, rfl⟩
  | _ => cases h

theorem exists_list_of_item {a : Address} (hseat : seatAt .list t a = .item)
    (hat : t.at? a = some x) :
    ∃ above front back, a = above ++ [front.length] ∧ seatAt .list t above = .list ∧
      t.at? above = some (.seq (front ++ x :: back)) ∧
      eraseAt a t = putAt (.seq (front ++ back)) above t := by
  rcases List.eq_nil_or_concat' a with rfl | ⟨above, i, rfl⟩
  · cases hseat
  · obtain ⟨v, hv, hchild⟩ := exists_of_at?_concat hat
    rw [seatAt_concat hv hchild] at hseat
    obtain ⟨hlist, items, rfl⟩ := of_below_eq_item hseat
    have hitem : items[i]? = some x := hchild
    obtain ⟨front, back, rfl, rfl⟩ := exists_split_of_getElem? hitem
    refine ⟨above, front, back, rfl, hlist, hv, ?_⟩
    rw [eraseAt_concat, editAt_eq_putAt hv, eraseChild, children, eraseIdx_split, withChildren]

theorem exists_item_of_exported {a : Address} (hseat : seatAt .list t a = .exported)
    (hat : t.at? a = some x) :
    ∃ above span data, a = above ++ [0] ∧ seatAt .list t above = .item ∧
      t.at? above = some (.node .exportDeclaration span data [x]) := by
  rcases List.eq_nil_or_concat' a with rfl | ⟨above, i, rfl⟩
  · cases hseat
  · obtain ⟨v, hv, hchild⟩ := exists_of_at?_concat hat
    rw [seatAt_concat hv hchild] at hseat
    obtain ⟨hitem, rfl, span, data, own, rfl⟩ := of_below_eq_exported hseat
    cases hchild
    exact ⟨above, span, data, rfl, hitem, hv⟩

end Tree
end ImportMacros
