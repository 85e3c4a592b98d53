import ImportMacros.Resolve

/-!
# ImportMacros.Proofs.Look

What can be told of the results of computations that look around. `Rules` are told for one monad,
by the way in which computations are put together: for plain functions (`Rules.plain`), and for
computations with a memory of which an invariant holds (`Rules.keeping`). `Rules.look` lifts them
to searches that can fail, about whose failures nothing is told.

A `Sight.Faithful` sight shows what stands at the paths of a file system. Both sights are faithful:
the one without a memory, and the one that remembers, as long as all that it remembers is true
(`faithful_remembering`).
-/

namespace ImportMacros
namespace Resolve

/-- What can be told of the results of computations in a monad. -/
structure Rules (m : Type → Type) [Monad m] where
  /-- Whatever a computation gives has a property. -/
  Gives {α : Type} : m α → (α → Prop) → Prop
  gives_pure {α : Type} {a : α} {P : α → Prop} : P a → Gives (pure a) P
  gives_mono {α : Type} {x : m α} {P Q : α → Prop} : Gives x P → (∀ a, P a → Q a) → Gives x Q
  gives_map {α β : Type} {x : m α} {f : α → β} {P : α → Prop} {Q : β → Prop} :
    Gives x P → (∀ a, P a → Q (f a)) → Gives (f <$> x) Q
  gives_bind {α β : Type} {x : m α} {k : α → m β} {P : α → Prop} {Q : β → Prop} :
    Gives x P → (∀ a, P a → Gives (k a) Q) → Gives (x >>= k) Q

namespace Rules

def plain : Rules Id where
  Gives x P := P x.run
  gives_pure h := h
  gives_mono h hPQ := hPQ _ h
  gives_map h hf := hf _ h
  gives_bind h hk := hk _ h

/-- A computation gives its value whenever it starts with a memory of which the invariant holds,
and keeps the invariant. -/
def keeping {σ : Type} (Inv : σ → Prop) : Rules (StateM σ) where
  Gives x P := ∀ s, Inv s → P (x.run s).1 ∧ Inv (x.run s).2
  gives_pure h _ hs := ⟨h, hs⟩
  gives_mono h hPQ s hs := ⟨hPQ _ (h s hs).1, (h s hs).2⟩
  gives_map h hf s hs := ⟨hf _ (h s hs).1, (h s hs).2⟩
  gives_bind h hk s hs := hk _ (h s hs).1 _ (h s hs).2

section Memory

variable {σ : Type} {Inv : σ → Prop}

theorem gives_get : (keeping Inv).Gives (get : StateM σ σ) Inv := fun _ hs => ⟨hs, hs⟩

/-- A value that is given after a change of the memory which keeps the invariant. -/
theorem gives_modify {change : σ → σ} (h : ∀ s, Inv s → Inv (change s)) {α : Type} {a : α}
    {P : α → Prop} (ha : P a) : (keeping Inv).Gives (do modify change; return a) P :=
  fun s hs => ⟨ha, h s hs⟩

end Memory

variable {m : Type → Type} [Monad m] (r : Rules m)

/-- A search gives what it finds; when it fails, nothing is told. -/
def look : Rules (Look m) where
  Gives x P := r.Gives x.run fun result => ∀ a, result = .ok a → P a
  gives_pure h := r.gives_pure fun _ heq => Except.ok.inj heq ▸ h
  gives_mono h hPQ := r.gives_mono h fun _ hresult a heq => hPQ a (hresult a heq)
  gives_map h hf := r.gives_bind h fun result hresult => by
    cases result with
    | ok a => exact r.gives_pure fun _ heq => Except.ok.inj heq ▸ hf a (hresult a rfl)
    | error e => exact r.gives_pure nofun
  gives_bind h hk := r.gives_bind h fun result hresult => by
    cases result with
    | ok a => exact hk a (hresult a rfl)
    | error e => exact r.gives_pure nofun

/-- Nothing is told of what a computation gives, but it goes by the rules. -/
def Runs {α : Type} (x : m α) : Prop := r.Gives x fun _ => True

/-- If a computation comes to something, that has a property. -/
def Finds {α : Type} (x : m (Option α)) (P : α → Prop) : Prop :=
  r.Gives x fun result => ∀ a, result = some a → P a

variable {r}
variable {α β : Type} {P : α → Prop} {Q : β → Prop}

theorem runs_pure (a : α) : r.Runs (pure a) := r.gives_pure trivial

theorem finds_none : r.Finds (pure none) P := r.gives_pure nofun

theorem finds_some {a : α} (h : P a) : r.Finds (pure (some a)) P :=
  r.gives_pure fun _ heq => Option.some.inj heq ▸ h

theorem finds_of_runs {x : m (Option α)} (h : r.Runs x) : r.Finds x fun _ => True :=
  r.gives_mono h fun _ _ _ _ => trivial

/-! ## Branches -/

theorem gives_ite {c : Prop} [Decidable c] {x y : m α} (hx : r.Gives x P) (hy : r.Gives y P) :
    r.Gives (if c then x else y) P := by
  split
  · exact hx
  · exact hy

theorem gives_cond {test : m Bool} {x y : m α} (htest : r.Runs test) (hx : r.Gives x P)
    (hy : r.Gives y P) : r.Gives (do if ← test then x else y) P :=
  r.gives_bind htest fun _ _ => gives_ite hx hy

theorem gives_cases {x : m (Option α)} {k : Option α → m β} (hx : r.Finds x P)
    (hnone : r.Gives (k none) Q) (hsome : ∀ a, P a → r.Gives (k (some a)) Q) :
    r.Gives (x >>= k) Q := by
  refine r.gives_bind hx fun result hresult => ?_
  cases result with
  | none => exact hnone
  | some a => exact hsome a (hresult a rfl)

/-- The first element that passes a test has what passing the test tells. -/
theorem finds_findM? {test : α → m Bool} (h : ∀ a, r.Gives (test a) fun b => b = true → P a)
    (as : List α) : r.Finds (as.findM? test) P := by
  induction as with
  | nil => exact finds_none
  | cons a rest ih =>
    refine r.gives_bind (h a) fun passed hpassed => ?_
    cases passed with
    | true => exact finds_some (hpassed rfl)
    | false => exact ih

/-! ## Searches that can fail -/

theorem gives_look_of {result : Except ResolveError α} (h : ∀ a, result = .ok a → P a) :
    r.look.Gives (Look.of result) P :=
  r.gives_pure h

theorem gives_throw (e : ResolveError) : r.look.Gives (throw e : Look m α) P := r.gives_pure nofun

theorem gives_throw_bind (e : ResolveError) (k : β → Look m α) :
    r.look.Gives (throw e >>= k) P :=
  r.look.gives_bind (P := fun _ => False) (gives_throw e) fun _ h => h.elim

/-- A search may look at something that never fails. -/
theorem gives_lift {x : m α} (h : r.Gives x P) : r.look.Gives (liftM x : Look m α) P :=
  r.gives_map h fun _ ha _ heq => Except.ok.inj heq ▸ ha

theorem gives_tryCatch {x : Look m α} {handle : ResolveError → Look m α} (h : r.look.Gives x P)
    (hhandle : ∀ e, r.look.Gives (handle e) P) : r.look.Gives (tryCatch x handle) P :=
  r.gives_bind h fun result hresult => by
    cases result with
    | ok a => exact r.gives_pure hresult
    | error e => exact hhandle e

theorem finds_firstOf {step : β → Look m (Option α)} (h : ∀ b, r.look.Finds (step b) P)
    (bs : List β) : r.look.Finds (Look.firstOf step bs) P := by
  induction bs with
  | nil => exact finds_none
  | cons b rest ih => exact gives_cases (h b) ih fun _ => finds_some

end Rules

/-! ## Sights -/

def Seen.IsTrue (fs : FileSystem) (seen : Seen) : Prop :=
  ∀ p kind, seen.kinds.lookup p = some kind → kind = EntryKind.at? fs p

theorem Seen.IsTrue.withPackage {fs : FileSystem} {seen : Seen} (h : seen.IsTrue fs) (dir : Path)
    (package : Option Package) :
    Seen.IsTrue fs { seen with packages := (dir, package) :: seen.packages } :=
  h

theorem Seen.IsTrue.withKind {fs : FileSystem} {seen : Seen} (h : seen.IsTrue fs) (p : Path) :
    Seen.IsTrue fs { seen with kinds := (p, EntryKind.at? fs p) :: seen.kinds } := by
  intro q kind hkind
  rw [List.lookup_cons] at hkind
  split at hkind
  · rename_i heq
    rw [eq_of_beq heq]
    exact (Option.some.inj hkind).symm
  · exact h q kind hkind

namespace Sight

/-- A sight that shows what stands at the paths of a file system and where they lead. Of package
descriptions nothing is told. -/
structure Faithful {m : Type → Type} [Monad m] (r : Rules m) (fs : FileSystem) (s : Sight m) :
    Prop where
  kind? (p : Path) : r.Gives (s.kind? p) (· = EntryKind.at? fs p)
  package (dir : Path) : r.look.Runs (s.package dir)
  real (p : Path) : r.Gives (s.real p) (· = realPath fs p)

theorem faithful_ofFileSystem (fs : FileSystem) : (ofFileSystem fs).Faithful .plain fs where
  kind? _ := rfl
  package _ _ _ := trivial
  real _ := rfl

/-- What is remembered stays true as long as the file system stays as it is. -/
theorem faithful_remembering (fs : FileSystem) :
    (remembering fs).Faithful (.keeping (Seen.IsTrue fs)) fs where
  kind? p := by
    refine Rules.gives_bind _ Rules.gives_get fun seen hseen => ?_
    cases hlookup : seen.kinds.lookup p with
    | some kind => exact Rules.gives_pure _ (hseen p kind hlookup)
    | none => exact Rules.gives_modify (fun seen h => Seen.IsTrue.withKind h p) rfl
  package dir := by
    change (Rules.keeping (Seen.IsTrue fs)).Gives ((remembering fs).package? dir)
      fun result => ∀ package, result = .ok package → True
    have hnothing (result : Except ResolveError (Option Package)) :
        ∀ package, result = .ok package → True := fun _ _ => trivial
    refine Rules.gives_bind _ Rules.gives_get fun seen _ => ?_
    cases seen.packages.lookup dir with
    | some package => exact Rules.gives_pure _ (hnothing _)
    | none =>
      cases Package.read? fs dir with
      | error e => exact Rules.gives_pure _ (hnothing _)
      | ok package =>
        refine Rules.gives_modify ?_ (hnothing _)
        exact fun _ h => h.withPackage dir package
  real _ _ hseen := ⟨rfl, hseen⟩

end Sight
end Resolve
end ImportMacros
