import FrameCode.Markup.Document
import Mathlib.Data.List.TakeDrop
import Mathlib.Data.List.TakeWhile

/-!
# Names in document trees

Every element of a document, however deep inside it, has a name that consists of name characters.
The names come from the start tags, and the tree is built without touching them.

- `Markup.Scan.Yields`: everything that a scanner takes has a property
- `Markup.Token.all?_named`: the names of the start tags
- `Markup.Node.Named`, `Markup.Element.Named`: the names in a tree
- `Markup.Progress.Named.step`, `Markup.Element.named_parse?`: every token keeps this, and so it
  holds for a whole document
-/

namespace FrameCode
namespace Markup

/-- A text consists of characters that names can contain. -/
def IsName (name : String) : Prop :=
  ∀ c ∈ name.toList, isNameChar c = true

/-! ## Scanners -/

namespace Scan

variable {α β : Type} {P : α → Prop} {Q : β → Prop}

/-- Everything that a scanner takes has a property. -/
def Yields (scan : Scan α) (P : α → Prop) : Prop :=
  ∀ input a rest, scan input = some (a, rest) → P a

theorem yields_pure {a : α} (h : P a) : Yields (pure a) P := by
  intro input a' rest htaken
  cases htaken
  exact h

theorem yields_failure : Yields (failure : Scan α) P := by
  intro input a rest htaken
  cases htaken

theorem Yields.bind {x : Scan α} {f : α → Scan β} (hx : Yields x P)
    (hf : ∀ a, P a → Yields (f a) Q) : Yields (x >>= f) Q := by
  intro input b rest htaken
  rcases Option.bind_eq_some_iff.1 htaken with ⟨⟨a, middle⟩, hfirst, hlater⟩
  exact hf a (hx input a middle hfirst) middle b rest hlater

/-- What comes last decides, if nothing is known of what comes before. -/
theorem yields_bind {x : Scan α} {f : α → Scan β} (hf : ∀ a, Yields (f a) Q) :
    Yields (x >>= f) Q := by
  have hx : Yields x fun _ => True := fun _ _ _ _ => trivial
  exact hx.bind fun a _ => hf a

theorem yields_ite {b : Bool} {x y : Scan α} (hx : Yields x P) (hy : Yields y P) :
    Yields (if b = true then x else y) P := by
  cases b with
  | true => exact hx
  | false => exact hy

theorem yields_takeWhile (p : Char → Bool) :
    Yields (takeWhile p) fun run => ∀ c ∈ run, p c = true := by
  intro input run rest htaken
  unfold takeWhile at htaken
  rw [List.span_eq_takeWhile_dropWhile] at htaken
  cases htaken
  intro c hc
  exact List.mem_takeWhile_imp hc

end Scan

/-! ## Tokens -/

theorem QualifiedName.mem_of_mem_base {run : List Char} {name : QualifiedName}
    (h : ofChars? run = some name) {c : Char} (hc : c ∈ name.base.toList) : c ∈ run := by
  unfold ofChars? at h
  rw [List.span_eq_takeWhile_dropWhile] at h
  split at h
  next base hspan =>
    split at h
    next =>
      cases h
      rcases Prod.mk.inj hspan with ⟨rfl, -⟩
      exact (List.takeWhile_sublist _).subset (by simpa using hc)
    next => cases h
  next qualifier colon base hspan =>
    split at h
    next =>
      cases h
      rcases Prod.mk.inj hspan with ⟨-, hbase⟩
      have hmem : c ∈ run.dropWhile (· ≠ ':') := by
        rw [hbase]
        exact List.mem_cons_of_mem _ (by simpa using hc)
      exact (List.dropWhile_sublist _).subset hmem
    next => cases h

theorem Scan.yields_qualifiedName : Yields qualifiedName fun name => IsName name.base := by
  refine (yields_takeWhile isNameChar).bind fun run hrun => ?_
  split
  next name hname =>
    refine yields_pure fun c hc => ?_
    exact hrun c (QualifiedName.mem_of_mem_base hname hc)
  next => exact yields_failure

namespace Token

open Scan

/-- A start tag has a name that consists of name characters. -/
def Named : Token → Prop
  | startTag name _ _ => IsName name.base
  | _ => True

theorem startTagAfterMark_named (bound : Nat) : Yields (startTagAfterMark bound) Named := by
  refine yields_qualifiedName.bind fun name hname => ?_
  exact yields_bind fun _ => yields_pure hname

theorem endTagAfterMark_named : Yields endTagAfterMark Named :=
  yields_bind fun _ => yields_bind fun _ => yields_bind fun _ => yields_pure trivial

theorem commentAfterMark_named : Yields commentAfterMark Named := by
  refine yields_bind fun content => ?_
  split
  · exact yields_failure
  · exact yields_pure trivial

theorem instructionAfterMark_named : Yields instructionAfterMark Named := by
  refine yields_bind fun reserved => yields_ite ?_ ?_
  · have hstop : Yields (failure : Scan PUnit) fun _ => False := yields_failure
    exact hstop.bind fun _ hnever => hnever.elim
  · exact yields_bind fun _ => yields_bind fun _ => yields_bind fun _ => yields_pure trivial

theorem verbatimAfterMark_named : Yields verbatimAfterMark Named :=
  yields_bind fun _ => yields_pure trivial

theorem textRun_named : Yields textRun Named := by
  refine yields_bind fun raw => yields_ite ?_ ?_
  · exact yields_failure
  · exact yields_pure trivial

theorem next_named (bound : Nat) : Yields (next bound) Named := by
  refine yields_bind fun _ => yields_ite (yields_bind fun _ => commentAfterMark_named) ?_
  refine yields_bind fun _ => yields_ite (yields_bind fun _ => verbatimAfterMark_named) ?_
  refine yields_bind fun _ => yields_ite (yields_bind fun _ => instructionAfterMark_named) ?_
  refine yields_bind fun _ => yields_ite (yields_bind fun _ => endTagAfterMark_named) ?_
  refine yields_bind fun _ => yields_ite (yields_bind fun _ => ?_) textRun_named
  exact startTagAfterMark_named bound

theorem many_named (fuel : Nat) : Yields (many fuel) fun tokens => ∀ t ∈ tokens, t.Named := by
  induction fuel with
  | zero => exact yields_failure
  | succ fuel ih =>
    refine yields_bind fun _ => yields_ite (yields_pure fun _ ht => nomatch ht) ?_
    refine (next_named fuel).bind fun first hfirst => ?_
    refine ih.bind fun later hlater => ?_
    exact yields_pure (List.forall_mem_cons.2 ⟨hfirst, hlater⟩)

theorem all?_named {text : List Char} {tokens : List Token} (h : all? text = some tokens) :
    ∀ t ∈ tokens, t.Named := by
  rcases Option.map_eq_some_iff.1 h with ⟨⟨_, rest⟩, hscan, rfl⟩
  have hall : Yields (do byteOrderMark; declaration; many ((← get).length + 1) : Scan (List Token))
      fun tokens => ∀ t ∈ tokens, t.Named :=
    yields_bind fun _ => yields_bind fun _ => yields_bind fun _ => many_named _
  exact hall text _ rest hscan

end Token

/-! ## Trees -/

namespace Node

/-- The elements of a tree, at any depth, have names that consist of name characters. -/
inductive Named : Node → Prop
  | element (name : String) (attributes : List Attribute) (children : List Node)
      (hname : IsName name) (hchildren : ∀ child ∈ children, Named child) :
      Named (.element name attributes children)
  | text (content : String) : Named (.text content)
  | comment (content : String) : Named (.comment content)
  | instruction (target content : String) : Named (.instruction target content)

end Node

namespace Element

/-- An element and all elements inside it have names that consist of name characters. -/
structure Named (e : Element) : Prop where
  name : IsName e.name
  children : ∀ child ∈ e.children, child.Named

theorem Named.toNode {e : Element} (h : e.Named) : e.toNode.Named :=
  .element e.name e.attributes e.children h.name h.children

theorem Named.elements {e child : Element} (h : e.Named) (hchild : child ∈ e.elements) :
    child.Named := by
  rcases List.mem_filterMap.1 hchild with ⟨node, hnode, helement⟩
  have hnamed := h.children node hnode
  cases hnamed with
  | element name attributes children hname hchildren =>
    cases helement
    exact ⟨hname, hchildren⟩
  | _ => cases helement

end Element

namespace Pending

/-- An open element and all elements inside it so far. -/
structure Named (e : Pending) : Prop where
  name : IsName e.name.base
  children : ∀ child ∈ e.children, child.Named

variable {e : Pending}

theorem named_open? {outer : Bindings} {name : QualifiedName} {raw : List RawAttribute}
    (hname : IsName name.base) (h : open? outer name raw = some e) : e.Named := by
  unfold open? at h
  simp only [Option.bind_eq_bind, Option.bind_eq_some_iff] at h
  rcases h with ⟨written, -, own, -, attributes, -, hresult⟩
  split at hresult
  next =>
    cases hresult
    exact ⟨hname, fun _ hchild => nomatch hchild⟩
  next => cases hresult

theorem Named.close (h : e.Named) : e.close.Named :=
  ⟨h.name, fun child hchild => h.children child (List.mem_reverse.1 hchild)⟩

theorem Named.add (h : e.Named) {node : Node} (hnode : node.Named) : (e.add node).Named :=
  ⟨h.name, List.forall_mem_cons.2 ⟨hnode, h.children⟩⟩

theorem Named.addText (h : e.Named) (content : String) : (e.addText content).Named := by
  unfold Pending.addText
  split
  next before earlier hchildren =>
    -- The text takes the place of the one before it.
    refine ⟨h.name, List.forall_mem_cons.2 ⟨.text _, fun child hchild => ?_⟩⟩
    exact h.children child (hchildren ▸ List.mem_cons_of_mem _ hchild)
  next => exact h.add (.text content)

end Pending

namespace Progress

/-- Everything that has been read of a document. -/
structure Named (s : Progress) : Prop where
  pending : ∀ e ∈ s.pending, e.Named
  root : ∀ e, s.root = some e → e.Named

variable {s after : Progress}

/-- The innermost open element is changed. -/
theorem Named.change (h : s.Named) {inner changed : Pending} {outer : List Pending}
    (hpending : s.pending = inner :: outer) (hchanged : inner.Named → changed.Named) :
    Named { s with pending := changed :: outer } := by
  have hall := h.pending
  rw [hpending] at hall
  rcases List.forall_mem_cons.1 hall with ⟨hinner, houter⟩
  exact ⟨List.forall_mem_cons.2 ⟨hchanged hinner, houter⟩, h.root⟩

theorem Named.complete (h : s.Named) {e : Element} (he : e.Named)
    (hcomplete : s.complete e = some after) : after.Named := by
  unfold Progress.complete at hcomplete
  split at hcomplete
  next parent outer hpending =>
    cases hcomplete
    exact h.change hpending fun hparent => hparent.add he.toNode
  next =>
    split at hcomplete
    next =>
      cases hcomplete
      exact ⟨h.pending, fun _ hroot => Option.some.inj hroot ▸ he⟩
    next => cases hcomplete

theorem Named.addMiscellaneous (h : s.Named) {node : Node} (hnode : node.Named) :
    (s.addMiscellaneous node).Named := by
  unfold Progress.addMiscellaneous
  split
  next parent outer hpending => exact h.change hpending fun hparent => hparent.add hnode
  next => exact h

/-- Every token keeps the names of what has been read. -/
theorem Named.step (h : s.Named) {token : Token} (htoken : token.Named)
    (hstep : s.step token = some after) : after.Named := by
  cases token with
  | startTag name attributes closed =>
    simp only [Progress.step, Option.bind_eq_bind, Option.bind_eq_some_iff] at hstep
    rcases hstep with ⟨e, hopen, hstep⟩
    have he : e.Named := Pending.named_open? htoken hopen
    split at hstep
    next => exact h.complete he.close hstep
    next =>
      split at hstep
      next => cases hstep
      next =>
        cases hstep
        exact ⟨List.forall_mem_cons.2 ⟨he, h.pending⟩, h.root⟩
  | endTag name =>
    simp only [Progress.step] at hstep
    split at hstep
    next e outer hpending =>
      have hall := h.pending
      rw [hpending] at hall
      rcases List.forall_mem_cons.1 hall with ⟨he, houter⟩
      split at hstep
      next =>
        have hinner : Named { s with pending := outer } := ⟨houter, h.root⟩
        exact hinner.complete he.close hstep
      next => cases hstep
    next => cases hstep
  | text raw =>
    simp only [Progress.step] at hstep
    split at hstep
    next e outer hpending =>
      rcases Option.bind_eq_some_iff.1 hstep with ⟨content, -, hcontent⟩
      cases hcontent
      exact h.change hpending fun he => he.addText _
    next =>
      split at hstep
      next =>
        cases hstep
        exact h
      next => cases hstep
  | verbatim raw =>
    simp only [Progress.step] at hstep
    split at hstep
    next e outer hpending =>
      cases hstep
      exact h.change hpending fun he => he.addText _
    next => cases hstep
  | comment content =>
    cases hstep
    exact h.addMiscellaneous (.comment _)
  | instruction target content =>
    cases hstep
    exact h.addMiscellaneous (.instruction _ _)

theorem Named.steps {tokens : List Token} (h : s.Named) (htokens : ∀ t ∈ tokens, t.Named)
    (hsteps : tokens.foldlM Progress.step s = some after) : after.Named := by
  induction tokens generalizing s with
  | nil =>
    cases hsteps
    exact h
  | cons first later ih =>
    rcases List.forall_mem_cons.1 htokens with ⟨hfirst, hlater⟩
    rw [List.foldlM_cons] at hsteps
    rcases Option.bind_eq_some_iff.1 hsteps with ⟨middle, hstep, hrest⟩
    exact ih (h.step hfirst hstep) hlater hrest

end Progress

/-- The elements of a document have names that consist of name characters. -/
theorem Element.named_parse? {text : String} {root : Element} (h : parse? text = some root) :
    root.Named := by
  rcases Option.bind_eq_some_iff.1 h with ⟨tokens, htokens, htree⟩
  rcases Option.bind_eq_some_iff.1 htree with ⟨last, hlast, hroot⟩
  have hstart : Progress.Named ⟨[], none⟩ := ⟨by simp, by simp⟩
  have hnamed : last.Named := hstart.steps (Token.all?_named htokens) hlast
  split at hroot
  next => exact hnamed.root root hroot
  next => cases hroot

end Markup
end FrameCode
