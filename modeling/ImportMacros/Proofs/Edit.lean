import ImportMacros.Proofs.Placement
import ImportMacros.Proofs.Occurrence

/-!
# ImportMacros.Proofs.Edit

Trees changed at one address. `Tree.editAt` changes the subtree at an address by a function,
`Tree.putAt` puts another tree there, and `Tree.eraseAt` takes the subtree at an address out of
the list it stands in. Both are told by what stands around the subtree (`editAt_seq`,
`editAt_node`).

`Tree.places` are the addresses of the declarators of a key. To drop a declarator is to erase one
of them (`Drops.exists_place`), and one can be dropped if any of them stands in a declaration of
variables (`exists_dropRequire?_of_place`).
-/

namespace ImportMacros
namespace Tree

/-- A tree with other subtrees. The identifier of a binder stays. -/
def withChildren : Tree → List Tree → Tree
  | .binder id _, parts => .binder id (parts.getD 1 .absent)
  | .seq _, items => .seq items
  | .node kind span data _, parts => .node kind span data parts
  | t, _ => t

def editAt (f : Tree → Tree) : Address → Tree → Tree
  | [], t => f t
  | i :: rest, t => t.withChildren (t.children.modify i (editAt f rest))

def putAt (u : Tree) : Address → Tree → Tree := editAt fun _ => u

def eraseChild (i : Nat) (t : Tree) : Tree := t.withChildren (t.children.eraseIdx i)

/-- A tree without the subtree at an address, which goes from the list around it. -/
def eraseAt (a : Address) (t : Tree) : Tree :=
  match a.getLast? with
  | some i => editAt (eraseChild i) a.dropLast t
  | none => t

theorem editAt_append (f : Tree → Tree) (a b : Address) (t : Tree) :
    editAt f (a ++ b) t = editAt (editAt f b) a t := by
  induction a generalizing t with
  | nil => rfl
  | cons i rest ih =>
    have hrest : editAt f (rest ++ b) = editAt (editAt f b) rest := funext ih
    rw [List.cons_append, editAt, editAt, hrest]

theorem eraseAt_append (a : Address) {b : Address} (hb : b ≠ []) (t : Tree) :
    eraseAt (a ++ b) t = editAt (eraseAt b) a t := by
  obtain ⟨front, i, rfl⟩ := (List.eq_nil_or_concat b).resolve_left hb
  have hlast : eraseAt (front ++ [i]) = editAt (eraseChild i) front := by
    funext u
    simp [eraseAt]
  rw [List.concat_eq_append, hlast, ← editAt_append]
  simp [eraseAt]

theorem eraseAt_concat (a : Address) (i : Nat) (t : Tree) :
    eraseAt (a ++ [i]) t = editAt (eraseChild i) a t :=
  eraseAt_append a (List.cons_ne_nil i []) t

theorem exists_split_of_getElem? {α : Type} {xs : List α} {i : Nat} {x : α} (h : xs[i]? = some x) :
    ∃ front back, xs = front ++ x :: back ∧ front.length = i := by
  obtain ⟨hi, rfl⟩ := List.getElem?_eq_some_iff.1 h
  refine ⟨xs.take i, xs.drop (i + 1), ?_, List.length_take_of_le (Nat.le_of_lt hi)⟩
  rw [← List.drop_eq_getElem_cons hi, List.take_append_drop]

/-- A subtree at a position and what stands around it. -/
inductive IsChild (child : Tree) : Nat → Tree → Prop where
  | own {id : Ident} (ascription : Tree) : child = .use id → IsChild child 0 (.binder id ascription)
  | ascription (id : Ident) : IsChild child 1 (.binder id child)
  | item (front back : List Tree) : IsChild child front.length (.seq (front ++ child :: back))
  | part (kind : Kind) (span : Span) (data : Fields) (front back : List Tree) :
      IsChild child front.length (.node kind span data (front ++ child :: back))

theorem isChild_of_getElem? {t child : Tree} {i : Nat} (h : t.children[i]? = some child) :
    IsChild child i t := by
  cases t with
  | absent => cases h
  | use id => cases h
  | binder id ascription =>
    rcases i with _ | _ | i
    · cases h
      exact .own ascription rfl
    · cases h
      exact .ascription id
    · cases h
  | seq items =>
    obtain ⟨front, back, rfl, rfl⟩ := exists_split_of_getElem? h
    exact .item front back
  | node kind span data parts =>
    obtain ⟨front, back, rfl, rfl⟩ := exists_split_of_getElem? h
    exact .part kind span data front back

theorem modify_split {α : Type} (f : α → α) (front : List α) (x : α) (back : List α) :
    (front ++ x :: back).modify front.length f = front ++ f x :: back := by
  induction front with
  | nil => rfl
  | cons y rest ih => simpa using ih

theorem eraseIdx_split {α : Type} (front : List α) (x : α) (back : List α) :
    (front ++ x :: back).eraseIdx front.length = front ++ back := by
  induction front with
  | nil => rfl
  | cons y rest ih => simpa using ih

theorem editAt_seq (f : Tree → Tree) (front : List Tree) (t : Tree) (back : List Tree)
    (a : Address) :
    editAt f (front.length :: a) (.seq (front ++ t :: back)) =
      .seq (front ++ editAt f a t :: back) := by
  rw [editAt, children, modify_split, withChildren]

theorem editAt_node (f : Tree → Tree) (kind : Kind) (span : Span) (data : Fields)
    (front : List Tree) (t : Tree) (back : List Tree) (a : Address) :
    editAt f (front.length :: a) (.node kind span data (front ++ t :: back)) =
      .node kind span data (front ++ editAt f a t :: back) := by
  rw [editAt, children, modify_split, withChildren]

theorem editAt_eq_putAt {t x : Tree} {a : Address} (h : t.at? a = some x) (f : Tree → Tree) :
    editAt f a t = putAt (f x) a t := by
  induction a generalizing t with
  | nil =>
    cases h
    rfl
  | cons i rest ih =>
    obtain ⟨child, hchild, hbelow⟩ := at?_cons_eq_some.1 h
    obtain ⟨front, back, hsplit, rfl⟩ := exists_split_of_getElem? hchild
    rw [putAt, editAt, editAt, hsplit, modify_split, modify_split, ih hbelow]
    rfl

theorem exists_of_at?_concat {t x : Tree} {a : Address} {i : Nat}
    (h : t.at? (a ++ [i]) = some x) :
    ∃ v, t.at? a = some v ∧ v.children[i]? = some x := by
  induction a generalizing t with
  | nil =>
    obtain ⟨child, hchild, hnil⟩ := at?_cons_eq_some.1 h
    cases hnil
    exact ⟨t, rfl, hchild⟩
  | cons j rest ih =>
    obtain ⟨child, hchild, hbelow⟩ := at?_cons_eq_some.1 h
    obtain ⟨v, hv, hx⟩ := ih hbelow
    exact ⟨v, by rw [at?_cons hchild, hv], hx⟩

/-! ## The places of a key -/

mutual

/-- The addresses of the declarators of a key, in visiting order. -/
def places (key : Key) : Tree → List Address
  | .absent => []
  | .use _ => []
  | .binder _ ascription => (places key ascription).map (1 :: ·)
  | .seq items => placesFrom key 0 items
  | .node kind span data parts =>
    (if requires key (.node kind span data parts) then [[]] else []) ++
      if kind = .importDeclaration then [] else placesFrom key 0 parts

def placesFrom (key : Key) (i : Nat) : List Tree → List Address
  | [] => []
  | t :: rest => (places key t).map (i :: ·) ++ placesFrom key (i + 1) rest

end

variable {key : Key}

theorem mem_placesFrom {ts : List Tree} {i : Nat} {a : Address} :
    a ∈ placesFrom key i ts ↔
      ∃ j child rest, ts[j]? = some child ∧ a = (i + j) :: rest ∧ rest ∈ places key child := by
  induction ts generalizing i with
  | nil => simp [placesFrom]
  | cons t ts ih =>
    rw [placesFrom, List.mem_append, ih, List.mem_map]
    constructor
    · rintro (⟨rest, hrest, rfl⟩ | ⟨j, child, rest, hchild, rfl, hrest⟩)
      · exact ⟨0, t, rest, rfl, rfl, hrest⟩
      · refine ⟨j + 1, child, rest, hchild, ?_, hrest⟩
        rw [Nat.add_assoc, Nat.add_comm 1 j]
    · rintro ⟨j, child, rest, hchild, rfl, hrest⟩
      cases j with
      | zero =>
        cases hchild
        exact .inl ⟨rest, hrest, rfl⟩
      | succ j =>
        refine .inr ⟨j, child, rest, hchild, ?_, hrest⟩
        rw [Nat.add_assoc, Nat.add_comm 1 j]

theorem cons_mem_placesFrom_zero {ts : List Tree} {i : Nat} {a : Address} :
    i :: a ∈ placesFrom key 0 ts ↔ ∃ child, ts[i]? = some child ∧ a ∈ places key child := by
  rw [mem_placesFrom]
  constructor
  · rintro ⟨j, child, rest, hchild, heq, hrest⟩
    rw [Nat.zero_add, List.cons.injEq] at heq
    obtain ⟨rfl, rfl⟩ := heq
    exact ⟨child, hchild, hrest⟩
  · rintro ⟨child, hchild, ha⟩
    exact ⟨i, child, a, hchild, by rw [Nat.zero_add], ha⟩

theorem cons_mem_places {t : Tree} {i : Nat} {a : Address} :
    i :: a ∈ places key t ↔ t.isKind .importDeclaration = false ∧
      ∃ child, t.children[i]? = some child ∧ a ∈ places key child := by
  cases t with
  | absent => simp [places, children]
  | use id => simp [places, children]
  | binder id ascription =>
    rcases i with _ | _ | i <;> simp [places, children, isKind]
  | seq items => simp [places, children, isKind, cons_mem_placesFrom_zero]
  | node kind span data parts =>
    have hown : i :: a ∉ if requires key (.node kind span data parts) then [[]] else [] := by
      split <;> simp
    rw [places, List.mem_append, or_iff_right hown]
    by_cases hkind : kind = .importDeclaration
    · simp [hkind, isKind]
    · rw [if_neg hkind, cons_mem_placesFrom_zero]
      simp [hkind, isKind, children]

theorem nil_mem_places {t : Tree} : [] ∈ places key t ↔ t.requireKey? = some key := by
  cases t with
  | node kind span data parts =>
    have hbelow : [] ∉ if kind = .importDeclaration then [] else placesFrom key 0 parts := by
      split
      · simp
      · rw [mem_placesFrom]
        rintro ⟨j, child, rest, -, heq, -⟩
        cases heq
    rw [places, List.mem_append, or_iff_left hbelow, requires]
    split <;> simp_all
  | seq items =>
    have hbelow : [] ∉ placesFrom key 0 items := by
      rw [mem_placesFrom]
      rintro ⟨j, child, rest, -, heq, -⟩
      cases heq
    simp [places, hbelow, requireKey?]
  | _ => simp [places, requireKey?]

theorem at?_of_mem_places {t : Tree} {a : Address} (h : a ∈ places key t) :
    ∃ d, t.at? a = some d ∧ d.requireKey? = some key := by
  induction a generalizing t with
  | nil => exact ⟨t, rfl, nil_mem_places.1 h⟩
  | cons i rest ih =>
    obtain ⟨-, child, hchild, hrest⟩ := cons_mem_places.1 h
    obtain ⟨d, hat, hkey⟩ := ih hrest
    exact ⟨d, by rw [at?_cons hchild, hat], hkey⟩

theorem exists_child_of_place {t x : Tree} {i : Nat} {rest b : Address}
    (hat : t.at? (i :: rest) = some x) (hplace : i :: rest ++ b ∈ places key t) :
    ∃ child, t.children[i]? = some child ∧ child.at? rest = some x ∧
      t.isKind .importDeclaration = false ∧ rest ++ b ∈ places key child := by
  obtain ⟨child, hchild, hbelow⟩ := at?_cons_eq_some.1 hat
  obtain ⟨himport, child', hchild', hplace'⟩ := cons_mem_places.1 hplace
  rw [hchild] at hchild'
  cases hchild'
  exact ⟨child, hchild, hbelow, himport, hplace'⟩

/-! ## Dropping is erasing -/

theorem eraseAt_declarator (span : Span) (data : Fields) (front : List Tree) (d : Tree)
    (back : List Tree) :
    eraseAt [0, front.length] (.node .variableDeclaration span data [.seq (front ++ d :: back)]) =
      .node .variableDeclaration span data [.seq (front ++ back)] := by
  have hlist : eraseChild front.length (.seq (front ++ d :: back)) = .seq (front ++ back) := by
    rw [eraseChild, children, eraseIdx_split, withChildren]
  rw [← hlist]
  rfl

theorem Drops.exists_place {t u : Tree} (h : Drops key t u) :
    ∃ a k span data declarators,
      t.at? a = some (.node .variableDeclaration span data [.seq declarators]) ∧
      a ++ [0, k] ∈ places key t ∧ u = editAt (eraseAt [0, k]) a t := by
  induction h with
  | @declarator d span data front back hd =>
    refine ⟨[], front.length, span, data, front ++ d :: back, rfl, ?_, ?_⟩
    · have hplace : [front.length] ∈ places key (.seq (front ++ d :: back)) :=
        cons_mem_places.2 ⟨rfl, d, by simp [children], nil_mem_places.2 hd⟩
      exact cons_mem_places.2 ⟨rfl, _, rfl, hplace⟩
    · rw [editAt, eraseAt_declarator]
  | @binder t u id _ ih =>
    obtain ⟨a, k, span, data, declarators, hat, hplace, rfl⟩ := ih
    refine ⟨1 :: a, k, span, data, declarators, ?_, ?_, rfl⟩
    · rw [at?_cons rfl, hat]
    · exact cons_mem_places.2 ⟨rfl, t, rfl, hplace⟩
  | @seq t u front back _ ih =>
    obtain ⟨a, k, span, data, declarators, hat, hplace, rfl⟩ := ih
    have hchild : (Tree.seq (front ++ t :: back)).children[front.length]? = some t := by
      simp [children]
    refine ⟨front.length :: a, k, span, data, declarators, ?_, ?_, ?_⟩
    · rw [at?_cons hchild, hat]
    · exact cons_mem_places.2 ⟨rfl, t, hchild, hplace⟩
    · rw [editAt_seq]
  | @node t u kind span' data' front back hkind _ ih =>
    obtain ⟨a, k, span, data, declarators, hat, hplace, rfl⟩ := ih
    have hchild : (Tree.node kind span' data' (front ++ t :: back)).children[front.length]? =
        some t := by
      simp [children]
    refine ⟨front.length :: a, k, span, data, declarators, ?_, ?_, ?_⟩
    · rw [at?_cons hchild, hat]
    · exact cons_mem_places.2 ⟨by simpa [isKind] using hkind, t, hchild, hplace⟩
    · rw [editAt_node]

theorem dropRequire?_child {t child : Tree} (h : dropRequire? key t = none)
    (himport : t.isKind .importDeclaration = false) {i : Nat}
    (hchild : t.children[i]? = some child) : dropRequire? key child = none := by
  cases isChild_of_getElem? hchild with
  | own ascription hown =>
    rw [hown]
    rfl
  | ascription id => exact Option.map_eq_none_iff.1 h
  | item front back =>
    exact dropRequireIn?_eq_none.1 (Option.map_eq_none_iff.1 h) child (by simp)
  | part kind span data front back =>
    have hkind : kind ≠ .importDeclaration := by simpa [isKind] using himport
    rw [dropRequire?] at h
    split at h
    · cases h
    · rw [if_neg hkind] at h
      exact dropRequireIn?_eq_none.1 (Option.map_eq_none_iff.1 h) child (by simp)

theorem exists_dropRequire?_of_place {t : Tree} {a : Address} {k : Nat} {span : Span}
    {data : Fields} {declarators : List Tree}
    (hat : t.at? a = some (.node .variableDeclaration span data [.seq declarators]))
    (hplace : a ++ [0, k] ∈ places key t) : ∃ u, dropRequire? key t = some u := by
  rw [← Option.isSome_iff_exists, ← Option.ne_none_iff_isSome]
  induction a generalizing t with
  | nil =>
    intro hnone
    cases hat
    obtain ⟨-, list, hlist, hplace⟩ := cons_mem_places.1 hplace
    cases hlist
    obtain ⟨-, d, hd, hplace⟩ := cons_mem_places.1 hplace
    rw [dropRequire?] at hnone
    split at hnone
    · cases hnone
    · rename_i hdrop
      exact requireKey?_of_dropDeclarator? hdrop d (List.mem_of_getElem? hd)
        (nil_mem_places.1 hplace)
  | cons i rest ih =>
    intro hnone
    obtain ⟨child, hchild, hbelow, himport, hplace⟩ := exists_child_of_place hat hplace
    exact ih hbelow hplace (dropRequire?_child hnone himport hchild)

end Tree
end ImportMacros
