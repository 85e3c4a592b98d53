import Mathlib.Data.List.Induction
import ImportMacros.Data.Json5
import ImportMacros.Data.Yaml
import ImportMacros.Proofs.Fields

/-!
# ImportMacros.Proofs.Documents

What is read from a document is proper: however often a text repeats a key, no object of the value
has it twice. For the bracketed formats every step of the machine that nests tokens keeps all open
containers proper (`Reader.State.Proper.step`); for YAML the argument follows the nodes of the
document (`Yaml.proper_of_value?`).
-/

namespace ImportMacros

/-- What comes of something that may fail has some property. -/
def Always {α : Type} (P : α → Prop) (x : Option α) : Prop := ∀ a, x = some a → P a

namespace Always

variable {α β : Type} {P : α → Prop} {Q : β → Prop} {x y : Option α}

theorem none : Always P none := nofun

theorem some {a : α} (h : P a) : Always P (some a) := fun _ heq => Option.some.inj heq ▸ h

theorem ite {c : Prop} [Decidable c] (hx : Always P x) (hy : Always P y) :
    Always P (if c then x else y) := by
  by_cases h : c
  · rwa [if_pos h]
  · rwa [if_neg h]

theorem map {f : α → β} (h : ∀ a, Q (f a)) : Always Q (x.map f) := by
  intro b heq
  obtain ⟨a, -, rfl⟩ := Option.map_eq_some_iff.1 heq
  exact h a

theorem bind {f : α → Option β} (hx : Always P x) (h : ∀ a, P a → Always Q (f a)) :
    Always Q (x.bind f) := by
  intro b heq
  obtain ⟨a, ha, hb⟩ := Option.bind_eq_some_iff.1 heq
  exact h a (hx a ha) b hb

end Always

/-! ## Brackets -/

def Token.Proper : Token → Prop
  | .number n => n.Proper
  | _ => True

/-- All values that bare words name are proper. -/
def Grammar.Proper (g : Grammar) : Prop := ∀ text value, g.named text = some value → value.Proper

namespace Reader

def Frame.Proper : Frame → Prop
  | .array items => ∀ item ∈ items, item.Proper
  | .object fields => fields.Proper
  | .member fields _ => fields.Proper

structure State.Proper (s : State) : Prop where
  stack : ∀ frame ∈ s.stack, frame.Proper
  finish : ∀ value, s.expect = .finish value → value.Proper

variable {g : Grammar} {stack : List Frame} {s : State}

theorem proper_place (hstack : ∀ frame ∈ stack, frame.Proper) {value : Value}
    (hvalue : value.Proper) (h : place stack value = some s) : s.Proper := by
  unfold place at h
  split at h
  · cases h
    exact ⟨by simp, fun _ heq => Expect.finish.inj heq ▸ hvalue⟩
  · rename_i items rest
    cases h
    rw [List.forall_mem_cons] at hstack
    refine ⟨List.forall_mem_cons.2 ⟨?_, hstack.2⟩, nofun⟩
    exact List.forall_mem_cons.2 ⟨hvalue, hstack.1⟩
  · rename_i fields key rest
    cases h
    rw [List.forall_mem_cons] at hstack
    have hfields : fields.Proper := hstack.1
    exact ⟨List.forall_mem_cons.2 ⟨hfields.put key hvalue, hstack.2⟩, nofun⟩
  · cases h

theorem proper_enter (hstack : ∀ frame ∈ stack, frame.Proper) {frame : Frame}
    (hframe : frame.Proper) {expect : Expect} (hexpect : ∀ value, expect ≠ .finish value)
    (h : enter g stack frame expect = some s) : s.Proper := by
  have hs : s = ⟨frame :: stack, expect⟩ := by
    unfold enter at h
    split at h
    · cases h; rfl
    · split at h
      · cases h; rfl
      · cases h
  subst hs
  exact ⟨List.forall_mem_cons.2 ⟨hframe, hstack⟩, fun value heq => absurd heq (hexpect value)⟩

theorem proper_value (hg : g.Proper) (hstack : ∀ frame ∈ stack, frame.Proper) {token : Token}
    (htoken : token.Proper) (h : value g stack token = some s) : s.Proper := by
  cases token with
  | openArray =>
    have harray : (Frame.array []).Proper := fun _ hitem => nomatch hitem
    refine proper_enter hstack harray ?_ h
    exact nofun
  | openObject =>
    have hobject : (Frame.object []).Proper := Fields.proper_nil
    refine proper_enter hstack hobject ?_ h
    exact nofun
  | quoted text => exact proper_place hstack (.string text) h
  | word text =>
    obtain ⟨named, hnamed, h⟩ := Option.bind_eq_some_iff.1 h
    exact proper_place hstack (hg text named hnamed) h
  | number n => exact proper_place hstack htoken h
  | closeArray => cases h
  | closeObject => cases h
  | comma => cases h
  | colon => cases h

theorem proper_close (hstack : ∀ frame ∈ stack, frame.Proper) {token : Token}
    (h : close stack token = some s) : s.Proper := by
  unfold close at h
  split at h
  · split at h
    · rw [List.forall_mem_cons] at hstack
      refine proper_place hstack.2 (.array fun item hitem => ?_) h
      exact hstack.1 item (List.mem_reverse.1 hitem)
    · cases h
  · split at h
    · rw [List.forall_mem_cons] at hstack
      exact proper_place hstack.2 (Value.proper_object_iff.2 hstack.1) h
    · cases h
  · cases h

theorem proper_key (hstack : ∀ frame ∈ stack, frame.Proper) {text : String} {bare : Bool}
    (h : key g stack text bare = some s) : s.Proper := by
  unfold key at h
  split at h
  · split at h
    · cases h
    · cases h
      rw [List.forall_mem_cons] at hstack
      exact ⟨List.forall_mem_cons.2 hstack, nofun⟩
  · cases h

theorem proper_comma (hstack : ∀ frame ∈ stack, frame.Proper) (h : comma g stack = some s) :
    s.Proper := by
  unfold comma at h
  split at h
  · cases h
    exact ⟨hstack, fun value heq => by dsimp only at heq; split at heq <;> cases heq⟩
  · cases h
    exact ⟨hstack, fun value heq => by dsimp only at heq; split at heq <;> cases heq⟩
  · cases h

theorem State.Proper.step (hg : g.Proper) {s s' : State} (hs : s.Proper) {token : Token}
    (htoken : token.Proper) (h : Reader.step g s token = some s') : s'.Proper := by
  unfold Reader.step at h
  split at h
  · exact proper_value hg hs.stack htoken h
  · exact proper_close hs.stack h
  · exact proper_value hg hs.stack htoken h
  · exact proper_key hs.stack h
  · exact proper_key hs.stack h
  · exact proper_key hs.stack h
  · exact proper_key hs.stack h
  · exact proper_close hs.stack h
  · cases h
    exact ⟨hs.stack, nofun⟩
  · exact proper_comma hs.stack h
  · exact proper_close hs.stack h
  · cases h

theorem proper_run (hg : g.Proper) {tokens : List Token} (htokens : ∀ token ∈ tokens, token.Proper)
    {s : State} (hs : s.Proper) {value : Value} (h : run g s tokens = some value) :
    value.Proper := by
  induction tokens generalizing s with
  | nil =>
    rw [run] at h
    split at h
    · rename_i heq
      cases h
      exact hs.finish value heq
    · cases h
  | cons token rest ih =>
    rw [List.forall_mem_cons] at htokens
    obtain ⟨s', hstep, hrun⟩ := Option.bind_eq_some_iff.1 h
    exact ih htokens.2 (hs.step hg htokens.1 hstep) hrun

end Reader

theorem Value.proper_ofTokens? {g : Grammar} (hg : g.Proper) {tokens : List Token}
    (htokens : ∀ token ∈ tokens, token.Proper) {value : Value}
    (h : Value.ofTokens? g tokens = some value) : value.Proper :=
  have hstart : Reader.start.Proper := ⟨nofun, nofun⟩
  Reader.proper_run hg htokens hstart h

/-! ## JSON -/

namespace Json

theorem proper_number? {cs : List Char} {value : Value} (h : number? cs = some value) :
    value.Proper := by
  unfold number? at h
  split at h
  · cases h
  · split at h
    · cases h
    · split at h
      · cases h
      · dsimp only at h
        split at h
        · obtain ⟨x, -, rfl⟩ := Option.map_eq_some_iff.1 h
          exact .number (.double x)
        · split at h
          · cases h
            exact .number _
          · obtain ⟨x, -, rfl⟩ := Option.map_eq_some_iff.1 h
            exact .number (.double x)

theorem proper_named? {text : String} {value : Value} (h : named? text = some value) :
    value.Proper := by
  unfold named? at h
  split at h
  · cases h; exact .null
  · cases h; exact .bool true
  · cases h; exact .bool false
  · cases h

namespace Lexer

variable {tokens : List Token}

def State.Proper (s : State) : Prop := ∀ token ∈ s.tokens, token.Proper

theorem proper_between (h : ∀ token ∈ tokens, token.Proper) (c : Char) :
    Always State.Proper (between tokens c) := by
  unfold between
  repeat' refine .ite ?_ ?_
  all_goals first | exact .none | exact .some h | exact .some (List.forall_mem_cons.2 ⟨trivial, h⟩)

theorem State.Proper.flush {s : State} (hs : s.Proper) :
    Always (fun tokens => ∀ token ∈ tokens, token.Proper) (Lexer.flush s) := by
  obtain ⟨tokens, mode⟩ := s
  cases mode with
  | between => exact .some hs
  | number read =>
    intro all heq
    obtain ⟨value, hvalue, rfl⟩ := Option.map_eq_some_iff.1 heq
    exact List.forall_mem_cons.2 ⟨proper_number? hvalue, hs⟩
  | word read => exact .some (List.forall_mem_cons.2 ⟨trivial, hs⟩)
  | text read => exact .none
  | escape read => exact .none
  | unicode read high digits => exact .none
  | pair read high => exact .none
  | pairEscape read high => exact .none

theorem proper_endUnicode (h : ∀ token ∈ tokens, token.Proper) (read : List Char)
    (high : Option Nat) (unit : Nat) :
    Always State.Proper (endUnicode tokens read high unit) := by
  cases high with
  | none => exact .ite (.some h) (.ite .none (.some h))
  | some high => exact .ite (.some h) .none

theorem State.Proper.step {s : State} (hs : s.Proper) (c : Char) :
    Always State.Proper (Lexer.step s c) := by
  have hflush : Always State.Proper ((Lexer.flush s).bind (between · c)) :=
    hs.flush.bind fun _ htokens => proper_between htokens c
  obtain ⟨tokens, mode⟩ := s
  have hkeep : ∀ mode, State.Proper ⟨tokens, mode⟩ := fun _ => hs
  cases mode with
  | between => exact proper_between hs c
  | text read =>
    refine .ite (.some ?_) (.ite (.some (hkeep _)) (.ite .none (.some (hkeep _))))
    exact List.forall_mem_cons.2 ⟨trivial, hs⟩
  | escape read => exact .ite (.some (hkeep _)) (.map fun _ => hkeep _)
  | unicode read high digits =>
    rw [Lexer.step]
    dsimp only
    split
    · exact .none
    · exact .ite (proper_endUnicode hs read high _) (.some (hkeep _))
  | pair read high => exact .ite (.some (hkeep _)) .none
  | pairEscape read high => exact .ite (.some (hkeep _)) .none
  | number read => exact .ite (.some (hkeep _)) hflush
  | word read => exact .ite (.some (hkeep _)) hflush

theorem State.Proper.run {s : State} (hs : s.Proper) (cs : List Char) :
    Always (fun tokens => ∀ token ∈ tokens, token.Proper) (Lexer.run s cs) := by
  induction cs generalizing s with
  | nil =>
    intro all heq
    obtain ⟨read, hread, rfl⟩ := Option.map_eq_some_iff.1 heq
    exact fun token htoken => hs.flush read hread token (List.mem_reverse.1 htoken)
  | cons c cs ih => exact (hs.step c).bind fun _ => ih

end Lexer

theorem proper_read? {text : String} {value : Value} (h : read? text = some value) :
    value.Proper := by
  obtain ⟨tokens, htokens, hvalue⟩ := Option.bind_eq_some_iff.1 h
  have hgrammar : (grammar (some configDepth)).Proper := fun _ _ hnamed => proper_named? hnamed
  have hstart : Lexer.State.Proper ⟨[], .between⟩ := nofun
  exact Value.proper_ofTokens? hgrammar (hstart.run text.toList tokens htokens) hvalue

end Json

/-! ## JSON5 -/

namespace Json5

theorem proper_decimal? {cs : List Char} {value : Value} (h : decimal? cs = some value) :
    value.Proper := by
  unfold decimal? at h
  split at h
  · cases h
  · dsimp only at h
    repeat' split at h
    all_goals cases h
    all_goals constructor

theorem proper_number? {cs : List Char} {value : Value} (h : number? cs = some value) :
    value.Proper := by
  unfold number? at h
  split at h
  · split at h
    · repeat' split at h
      all_goals cases h
      exact .number _
    · exact proper_decimal? h
  · split at h
    · cases h
      exact .null
    · exact proper_decimal? h
  · cases h

theorem proper_named? {text : String} {value : Value} (h : named? text = some value) :
    value.Proper := by
  unfold named? at h
  split at h
  · cases h; exact .null
  · cases h; exact .null
  · exact Json.proper_named? h

namespace Lexer

variable {tokens : List Token}

def State.Proper (s : State) : Prop := ∀ token ∈ s.tokens, token.Proper

theorem proper_between (h : ∀ token ∈ tokens, token.Proper) (c : Char) :
    Always State.Proper (between tokens c) := by
  unfold between
  repeat' refine .ite ?_ ?_
  all_goals first | exact .none | exact .some h | exact .some (List.forall_mem_cons.2 ⟨trivial, h⟩)

theorem State.Proper.flush {s : State} (hs : s.Proper) :
    Always (fun tokens => ∀ token ∈ tokens, token.Proper) (Lexer.flush s) := by
  obtain ⟨tokens, mode⟩ := s
  cases mode with
  | between => exact .some hs
  | lineComment => exact .some hs
  | number read =>
    intro all heq
    obtain ⟨value, hvalue, rfl⟩ := Option.map_eq_some_iff.1 heq
    exact List.forall_mem_cons.2 ⟨proper_number? hvalue, hs⟩
  | word read => exact .ite (.some (List.forall_mem_cons.2 ⟨trivial, hs⟩)) .none
  | slash => exact .none
  | blockComment => exact .none
  | blockStar => exact .none
  | text quote read => exact .none
  | escape quote read => exact .none
  | continued quote read => exact .none
  | hex quote read high count digits => exact .none
  | pair quote read high => exact .none
  | pairEscape quote read high => exact .none

theorem proper_inText (h : ∀ token ∈ tokens, token.Proper) (quote : Char) (read : List Char)
    (c : Char) : Always State.Proper (inText tokens quote read c) := by
  refine .ite (.some ?_) (.ite (.some h) (.ite .none (.some h)))
  exact List.forall_mem_cons.2 ⟨trivial, h⟩

theorem proper_endHex (h : ∀ token ∈ tokens, token.Proper) (quote : Char) (read : List Char)
    (high : Option Nat) (unit : Nat) :
    Always State.Proper (endHex tokens quote read high unit) := by
  cases high with
  | none => exact .ite (.some h) (.ite .none (.some h))
  | some high => exact .ite (.some h) .none

theorem State.Proper.step {s : State} (hs : s.Proper) (c : Char) :
    Always State.Proper (Lexer.step s c) := by
  have hflush : Always State.Proper ((Lexer.flush s).bind (between · c)) :=
    hs.flush.bind fun _ htokens => proper_between htokens c
  obtain ⟨tokens, mode⟩ := s
  have hkeep : ∀ mode, State.Proper ⟨tokens, mode⟩ := fun _ => hs
  cases mode with
  | between => exact proper_between hs c
  | slash => exact .ite (.some (hkeep _)) (.ite (.some (hkeep _)) .none)
  | lineComment => exact .ite (.some (hkeep _)) (.some hs)
  | blockComment => exact .ite (.some (hkeep _)) (.some hs)
  | blockStar => exact .ite (.some (hkeep _)) (.ite (.some hs) (.some (hkeep _)))
  | text quote read => exact proper_inText hs quote read c
  | escape quote read =>
    refine .ite (.some (hkeep _)) (.ite (.some (hkeep _)) (.ite (.some (hkeep _)) ?_))
    exact .ite (.some (hkeep _)) (.map fun _ => hkeep _)
  | continued quote read => exact .ite (.some (hkeep _)) (proper_inText hs quote read c)
  | hex quote read high count digits =>
    rw [Lexer.step]
    dsimp only
    split
    · exact .none
    · exact .ite (.some (hkeep _)) (proper_endHex hs quote read high _)
  | pair quote read high => exact .ite (.some (hkeep _)) .none
  | pairEscape quote read high => exact .ite (.some (hkeep _)) .none
  | number read => exact .ite (.some (hkeep _)) hflush
  | word read => exact .ite (.some (hkeep _)) hflush

theorem State.Proper.run {s : State} (hs : s.Proper) (cs : List Char) :
    Always (fun tokens => ∀ token ∈ tokens, token.Proper) (Lexer.run s cs) := by
  induction cs generalizing s with
  | nil =>
    intro all heq
    obtain ⟨read, hread, rfl⟩ := Option.map_eq_some_iff.1 heq
    exact fun token htoken => hs.flush read hread token (List.mem_reverse.1 htoken)
  | cons c cs ih => exact (hs.step c).bind fun _ => ih

end Lexer

theorem proper_read? {text : String} {value : Value} (h : read? text = some value) :
    value.Proper := by
  obtain ⟨tokens, htokens, hvalue⟩ := Option.bind_eq_some_iff.1 h
  have hgrammar : grammar.Proper := fun _ _ hnamed => proper_named? hnamed
  have hstart : Lexer.State.Proper ⟨[], .between⟩ := nofun
  exact Value.proper_ofTokens? hgrammar (hstart.run text.toList tokens htokens) hvalue

end Json5

/-! ## YAML -/

namespace Yaml

theorem Float.proper_value (x : Float) : x.value.Proper := by
  cases x with
  | finite x => exact .number (.double x)
  | special => exact .null

theorem proper_resolvePlain {text : String} {value : Value} (h : resolvePlain text = some value) :
    value.Proper := by
  unfold resolvePlain at h
  split at h
  · cases h
    exact .null
  · split at h
    · cases h
      exact .bool _
    · split at h
      · cases h
        exact .number _
      · cases h
      · split at h
        · cases h
          exact .string text
        · split at h
          · cases h
            exact Float.proper_value _
          · cases h
            exact .string text

theorem proper_resolve {tag : Option String} {text : String} {isPlain : Bool} {value : Value}
    (h : resolve tag text isPlain = some value) : value.Proper := by
  unfold resolve at h
  split at h
  · split at h
    · exact proper_resolvePlain h
    · cases h
      exact .string text
  · split at h
    · obtain ⟨b, -, rfl⟩ := Option.map_eq_some_iff.1 h
      exact .bool b
    · split at h
      · split at h
        · cases h
          exact .number _
        · cases h
      · split at h
        · obtain ⟨x, -, rfl⟩ := Option.map_eq_some_iff.1 h
          exact x.proper_value
        · split at h
          · split at h
            · cases h
              exact .null
            · cases h
          · cases h
            exact .string text

/-- All values of nodes are proper that nest no deeper than so. -/
def ProperTo (l : Loader) (depth : Nat) : Prop :=
  ∀ used node result, value? l depth used node = some result → result.1.Proper

variable {l : Loader} {depth : Nat}

theorem ProperTo.values? (hdepth : ProperTo l depth) {items : List Node} {used : Nat}
    {result : List Value × Nat} (h : Yaml.values? l depth used items = some result) :
    ∀ value ∈ result.1, value.Proper := by
  induction items generalizing used result with
  | nil =>
    rw [Yaml.values?] at h
    cases h
    simp
  | cons item rest ih =>
    rw [Yaml.values?] at h
    split at h
    · cases h
    · rename_i value used' hitem
      obtain ⟨values, hvalues, rfl⟩ := Option.map_eq_some_iff.1 h
      exact List.forall_mem_cons.2 ⟨hdepth used item (value, used') hitem, ih hvalues⟩

theorem ProperTo.fields? (hdepth : ProperTo l depth) {items : List Node} {used : Nat}
    {fields : Fields} (hfields : fields.Proper) {result : Fields × Nat}
    (h : Yaml.fields? l depth used fields items = some result) : result.1.Proper := by
  induction items using List.twoStepInduction generalizing used fields with
  | nil =>
    rw [Yaml.fields?] at h
    · cases h
      exact hfields
    · simp
  | singleton key =>
    rw [Yaml.fields?] at h
    · cases h
      exact hfields
    · simp
  | cons_cons key item rest ih =>
    rw [Yaml.fields?] at h
    split at h
    · cases h
    · rename_i text followed hkey
      split at h
      · cases h
      · split at h
        · cases h
        · rename_i value used' hitem
          exact ih (hfields.put text (hdepth _ item (value, used') hitem)) h

theorem properTo_of_pred (h : ∀ d, depth = d + 1 → ProperTo l d) : ProperTo l depth := by
  intro used node result hvalue
  rw [value?] at hvalue
  split at hvalue
  · cases hvalue
  · dsimp only at hvalue
    split at hvalue
    · cases hvalue
    · split at hvalue
      · split at hvalue
        · cases hvalue
        · obtain ⟨value, hresolve, rfl⟩ := Option.map_eq_some_iff.1 hvalue
          exact proper_resolve hresolve
      · cases hvalue
      · split at hvalue
        · cases hvalue
        · split at hvalue
          · cases hvalue
          · obtain ⟨values, hvalues, rfl⟩ := Option.map_eq_some_iff.1 hvalue
            exact .array ((h _ rfl).values? hvalues)
      · split at hvalue
        · cases hvalue
        · split at hvalue
          · cases hvalue
          · obtain ⟨fields, hfields, rfl⟩ := Option.map_eq_some_iff.1 hvalue
            exact Value.proper_object_iff.2 ((h _ rfl).fields? Fields.proper_nil hfields)

theorem properTo (l : Loader) (depth : Nat) : ProperTo l depth := by
  induction depth with
  | zero => exact properTo_of_pred nofun
  | succ depth ih =>
    refine properTo_of_pred fun d hd => ?_
    cases hd
    exact ih

theorem proper_read? {text : String} {value : Value} (h : read? text = some value) :
    value.Proper := by
  unfold read? at h
  split at h
  · cases h
  · split at h
    · cases h
    · split at h
      · cases h
        exact .null
      · obtain ⟨result, hresult, rfl⟩ := Option.map_eq_some_iff.1 h
        exact properTo _ maxDepth 0 _ result hresult

end Yaml

end ImportMacros
