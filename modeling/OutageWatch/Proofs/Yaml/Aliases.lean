import Mathlib.Data.List.Basic
import OutageWatch.Yaml.Composing

/-!
# Aliases stand for nodes

An alias is read as the number of a name that was anchored before it, and what is anchored stays
anchored.  So in a document that was read every alias of an entry stands for a node.

## Main definitions

* `Yaml.Composer.IsSound` : the numbers of the anchors' names are anchored.
* `Yaml.Yields` : what reading keeps and gives, where some numbers are anchored.
* `Yaml.Node.IsNamed`, `Yaml.Node.IsClosed` : an alias is anchored, and so are those of a mapping's
  entries.
* `Yaml.Document.entries?` : the entries of a document that is a mapping, with aliases followed.

## Main results

* `Yaml.YieldsNodes.all` : reading nodes keeps the anchors sound and gives closed nodes.
* `Yaml.Document.isClosed_of_parse` : the aliases of a document's entries stand for nodes.
-/

namespace OutageWatch.Yaml

/-! ### Anchors -/

namespace Composer

/-- The numbers under which something is anchored. -/
def numbers (c : Composer) : List Nat := c.anchored.map Prod.fst

/-- The numbers of the anchors' names are anchored. -/
def IsSound (c : Composer) : Prop := ∀ a ∈ c.anchors, a.2 ∈ c.numbers

end Composer

/-- Where the numbers `ks` are anchored, reading keeps the anchors sound and what is anchored, and
what it gives satisfies `P` with the numbers anchored then. -/
def Yields {α : Type} (ks : List Nat) (x : Composing α) (P : List Nat → α → Prop) : Prop :=
  ∀ c a c', c.IsSound → ks ⊆ c.numbers → x c = some (a, c') →
    c'.IsSound ∧ c.numbers ⊆ c'.numbers ∧ P c'.numbers a

/-- Reading keeps the anchors sound and what is anchored. -/
abbrev Keeps {α : Type} (ks : List Nat) (x : Composing α) : Prop := Yields ks x fun _ _ => True

namespace Yields

variable {α β : Type} {ks : List Nat} {x : Composing α} {P : List Nat → α → Prop}
  {Q : List Nat → β → Prop}

theorem pure {a : α} (h : ∀ ks', ks ⊆ ks' → P ks' a) : Yields ks (Pure.pure a) P := by
  intro c a' c' hc hk hx
  cases hx
  exact ⟨hc, List.Subset.refl _, h _ hk⟩

theorem failure : Yields ks (Alternative.failure : Composing α) P := by
  intro c a c' _ _ hx
  cases hx

theorem bind {f : α → Composing β} (hx : Yields ks x P)
    (hf : ∀ ks' a, ks ⊆ ks' → P ks' a → Yields ks' (f a) Q) : Yields ks (x >>= f) Q := by
  intro c b c' hc hk h
  obtain ⟨⟨a, c₁⟩, ha, hb⟩ := Option.bind_eq_some_iff.1 h
  obtain ⟨hc₁, hk₁, hp⟩ := hx c a c₁ hc hk ha
  obtain ⟨hc', hk', hq⟩ := hf _ a (List.Subset.trans hk hk₁) hp c₁ b c' hc₁ (List.Subset.refl _) hb
  exact ⟨hc', List.Subset.trans hk₁ hk', hq⟩

/-- Reading whose result does not matter. -/
theorem keeps_bind {f : α → Composing β} (hx : Keeps ks x)
    (hf : ∀ ks' a, ks ⊆ ks' → Yields ks' (f a) Q) : Yields ks (x >>= f) Q :=
  bind hx fun ks' a hk _ => hf ks' a hk

theorem weaken {P' : List Nat → α → Prop} (h : Yields ks x P) (hp : ∀ ks' a, P ks' a → P' ks' a) :
    Yields ks x P' := by
  intro c a c' hc hk hx
  obtain ⟨hc', hk', ha⟩ := h c a c' hc hk hx
  exact ⟨hc', hk', hp _ a ha⟩

theorem keeps (h : Yields ks x P) : Keeps ks x := h.weaken fun _ _ _ => trivial

theorem ite {p : Prop} [Decidable p] {y : Composing α} (hx : Yields ks x P) (hy : Yields ks y P) :
    Yields ks (if p then x else y) P := by
  split
  · exact hx
  · exact hy

end Yields

namespace Keeps

variable {α : Type} {ks : List Nat}

theorem pure {a : α} : Keeps ks (Pure.pure a) := Yields.pure fun _ _ => trivial

/-- Reading that does not anchor anything. -/
theorem of_eq {x : Composing α}
    (h : ∀ c a c', x c = some (a, c') → c'.anchors = c.anchors ∧ c'.anchored = c.anchored) :
    Keeps ks x := by
  intro c a c' hc _ hx
  obtain ⟨hs, hd⟩ := h c a c' hx
  refine ⟨?_, ?_, trivial⟩ <;> simp only [Composer.IsSound, Composer.numbers, hs, hd]
  · exact hc
  · exact List.Subset.refl _

theorem get : Keeps ks (MonadState.get : Composing Composer) := of_eq fun _ _ _ h => by
  cases h; exact ⟨rfl, rfl⟩

theorem peek? : Keeps ks peek? := of_eq fun _ _ _ h => by cases h; exact ⟨rfl, rfl⟩

theorem advance : Keeps ks advance := of_eq fun _ _ _ h => by cases h; exact ⟨rfl, rfl⟩

theorem accept (t : Token) : Keeps ks (accept t) :=
  peek?.keeps_bind fun _ _ _ => .ite (advance.keeps_bind fun _ _ _ => pure) pure

theorem demand (t : Token) : Keeps ks (demand t) :=
  (accept t).keeps_bind fun _ _ _ => .ite .failure pure

theorem isNext (ts : List Token) : Keeps ks (isNext ts) :=
  peek?.keeps_bind fun _ _ _ => pure

theorem tagText (handle rest : String) : Keeps ks (tagText handle rest) := by
  refine .ite pure (get.keeps_bind fun _ c _ => ?_)
  split
  · exact pure
  · exact .failure

theorem tag? : Keeps ks tag? := by
  refine peek?.keeps_bind fun _ t _ => ?_
  split
  · exact advance.keeps_bind fun _ _ _ => (tagText _ _).keeps_bind fun _ _ _ => pure
  · exact pure

theorem anchor? : Keeps ks anchor? := by
  refine peek?.keeps_bind fun _ t _ => ?_
  split
  · exact advance.keeps_bind fun _ _ _ => pure
  · exact pure

/-- What is anchored anew leaves the other numbers anchored. -/
theorem anchorNode (name : Option String) (shape : Shape) : Keeps ks (anchorNode name shape) := by
  intro c a c' hc _ hx
  cases name with
  | none =>
    cases hx
    exact ⟨hc, List.Subset.refl _, trivial⟩
  | some name =>
    cases hx
    have grows : c.numbers ⊆ (c.anchored ++ [(c.anchors.length, shape)]).map Prod.fst := by
      rw [List.map_append]
      exact List.subset_append_left _ _
    refine ⟨?_, grows, trivial⟩
    intro a ha
    rcases List.mem_cons.1 ha with rfl | ha
    · simp [Composer.numbers]
    · exact grows (hc a (List.mem_filter.1 ha).1)

end Keeps

theorem yields_get {ks : List Nat} :
    Yields ks (get : Composing Composer) fun ks' c => ∀ a ∈ c.anchors, a.2 ∈ ks' := by
  intro c a c' hc _ hx
  cases hx
  exact ⟨hc, List.Subset.refl _, hc⟩

/-- The number of an anchor's name is anchored. -/
theorem yields_anchorNumber {ks : List Nat} (name : String) :
    Yields ks (anchorNumber name) fun ks' n => n ∈ ks' := by
  refine yields_get.bind fun ks' c _ hc => ?_
  split
  next a ha => exact .pure fun _ hk => hk (hc a (List.mem_of_find?_eq_some ha))
  next => exact .failure

/-! ### Nodes -/

namespace Node

/-- An alias is one of the given numbers. -/
def IsNamed (ks : List Nat) : Node → Prop
  | .alias n => n ∈ ks
  | _ => True

theorem IsNamed.mono {ks ks' : List Nat} {n : Node} (h : n.IsNamed ks) (hk : ks ⊆ ks') :
    n.IsNamed ks' := by
  cases n with
  | «alias» => exact hk h
  | _ => trivial

end Node

/-- The keys and values of entries are named. -/
def AreNamed (ks : List Nat) (es : List (Node × Node)) : Prop :=
  ∀ e ∈ es, e.1.IsNamed ks ∧ e.2.IsNamed ks

theorem AreNamed.mono {ks ks' : List Nat} {es : List (Node × Node)} (h : AreNamed ks es)
    (hk : ks ⊆ ks') : AreNamed ks' es :=
  fun e he => ⟨(h e he).1.mono hk, (h e he).2.mono hk⟩

namespace Node

/-- A node is named, and so are the keys and values of a mapping. -/
def IsClosed (ks : List Nat) : Node → Prop
  | .alias n => n ∈ ks
  | .mapping es => AreNamed ks es
  | _ => True

theorem IsClosed.mono {ks ks' : List Nat} {n : Node} (h : n.IsClosed ks) (hk : ks ⊆ ks') :
    n.IsClosed ks' := by
  cases n with
  | «alias» => exact hk h
  | mapping => exact AreNamed.mono h hk
  | _ => trivial

theorem IsClosed.isNamed {ks : List Nat} {n : Node} (h : n.IsClosed ks) : n.IsNamed ks := by
  cases n with
  | «alias» => exact h
  | _ => trivial

end Node

/-- What the readings of nodes yield within some fuel. -/
structure YieldsNodes (fuel : Nat) : Prop where
  node {ks : List Nat} (i j : Bool) : Yields ks (node fuel i j) fun ks' n => n.IsClosed ks'
  indentedItems {ks : List Nat} : Keeps ks (indentedItems fuel)
  looseItems {ks : List Nat} : Keeps ks (looseItems fuel)
  indentedEntries {ks : List Nat} : Yields ks (indentedEntries fuel) AreNamed
  bracketItems {ks : List Nat} (isFirst : Bool) : Keeps ks (bracketItems fuel isFirst)
  braceEntries {ks : List Nat} (isFirst : Bool) : Yields ks (braceEntries fuel isFirst) AreNamed

namespace YieldsNodes

variable {fuel : Nat} {ks : List Nat}

theorem zero : YieldsNodes 0 := by
  constructor <;> intros
  · rw [Yaml.node]; exact .failure
  · rw [Yaml.indentedItems]; exact .failure
  · rw [Yaml.looseItems]; exact .failure
  · rw [Yaml.indentedEntries]; exact .failure
  · rw [Yaml.bracketItems]; exact .failure
  · rw [Yaml.braceEntries]; exact .failure

/-- A node in an entry or a list is named. -/
theorem named (h : YieldsNodes fuel) (i j : Bool) :
    Yields ks (Yaml.node fuel i j) fun ks' n => n.IsNamed ks' :=
  (h.node i j).weaken fun _ _ => Node.IsClosed.isNamed

/-- A part of an entry is left out, or a node. -/
theorem part (h : YieldsNodes fuel) (ts : List Token) (i j : Bool) :
    Yields ks (do if ← isNext ts then return omitted else Yaml.node fuel i j)
      fun ks' n => n.IsNamed ks' :=
  (Keeps.isNext ts).keeps_bind fun _ _ _ => .ite (.pure fun _ _ => trivial) (h.named i j)

/-- Items that follow a node. -/
theorem items {n : Composing Node} {rest : Composing (List Node)} (hn : Keeps ks n)
    (hr : ∀ ks', Keeps ks' rest) : Keeps ks (do let n ← n; return n :: (← rest)) :=
  hn.keeps_bind fun ks' _ _ => (hr ks').keeps_bind fun _ _ _ => Keeps.pure

theorem indentedItems_succ (h : YieldsNodes fuel) : Keeps ks (Yaml.indentedItems (fuel + 1)) := by
  rw [Yaml.indentedItems]
  refine (Keeps.accept _).keeps_bind fun _ _ _ => .ite ?_ ?_
  · refine (Keeps.isNext _).keeps_bind fun _ _ _ => .ite ?_ ?_
    · exact items .pure fun _ => h.indentedItems
    · exact items (h.named true false).keeps fun _ => h.indentedItems
  · exact (Keeps.demand _).keeps_bind fun _ _ _ => Keeps.pure

theorem looseItems_succ (h : YieldsNodes fuel) : Keeps ks (Yaml.looseItems (fuel + 1)) := by
  rw [Yaml.looseItems]
  refine (Keeps.accept _).keeps_bind fun _ _ _ => .ite ?_ Keeps.pure
  refine (Keeps.isNext _).keeps_bind fun _ _ _ => .ite ?_ ?_
  · exact items .pure fun _ => h.looseItems
  · exact items (h.named true false).keeps fun _ => h.looseItems

/-- Between brackets, what is not the end is read behind a comma, unless it comes first. -/
theorem bracketed {α : Type} {P : List Nat → List α → Prop} (hnil : ∀ ks, P ks []) (last : Token)
    (isFirst : Bool) {body : Composing (List α)} (hb : ∀ ks, Yields ks body P) :
    Yields ks (do
      if ← accept last then return []
      if !isFirst then
        demand .comma
        if ← accept last then return []
      body) P := by
  have ends (ks : List Nat) : Yields ks (pure []) P := .pure fun _ _ => hnil _
  refine (Keeps.accept _).keeps_bind fun _ _ _ => .ite (ends _) (.ite ?_ (hb _))
  exact (Keeps.demand _).keeps_bind fun _ _ _ => (Keeps.accept _).keeps_bind fun _ _ _ =>
    .ite (ends _) (hb _)

theorem bracketItems_succ (h : YieldsNodes fuel) (isFirst : Bool) :
    Keeps ks (Yaml.bracketItems (fuel + 1) isFirst) := by
  rw [Yaml.bracketItems]
  extract_lets item ofKey body
  have keepsItem (ks : List Nat) (n : Node) : Keeps ks (item n) :=
    (h.bracketItems false).keeps_bind fun _ _ _ => Keeps.pure
  have keepsOfKey (ks : List Nat) (k : Node) : Keeps ks (ofKey k) :=
    (Keeps.accept _).keeps_bind fun _ _ _ =>
      .ite ((h.part _ false false).keeps.keeps_bind fun _ _ _ => keepsItem _ _) (keepsItem _ _)
  refine bracketed (fun _ => trivial) .bracketEnd isFirst fun ks => ?_
  refine (Keeps.accept _).keeps_bind fun _ _ _ => .ite ?_ ?_
  · exact (Keeps.isNext _).keeps_bind fun _ _ _ =>
      .ite (keepsOfKey _ _) ((h.named false false).keeps.keeps_bind fun _ _ _ => keepsOfKey _ _)
  · exact (h.named false false).keeps.keeps_bind fun _ _ _ => keepsItem _ _

/-- An entry in front of others. -/
theorem entries {k v : Node} {rest : Composing (List (Node × Node))}
    (hk : k.IsNamed ks) (hv : v.IsNamed ks) (hr : Yields ks rest AreNamed) :
    Yields ks (do return (k, v) :: (← rest)) AreNamed := by
  refine hr.bind fun ks' es hks hes => .pure fun ks'' hks' => List.forall_mem_cons.2 ⟨?_, ?_⟩
  · exact ⟨hk.mono (List.Subset.trans hks hks'), hv.mono (List.Subset.trans hks hks')⟩
  · exact hes.mono hks'

theorem indentedEntries_succ (h : YieldsNodes fuel) :
    Yields ks (Yaml.indentedEntries (fuel + 1)) AreNamed := by
  rw [Yaml.indentedEntries]
  refine (Keeps.accept _).keeps_bind fun _ _ _ => .ite ?_ ?_
  · refine (h.part _ true true).bind fun _ k _ hk => ?_
    refine (Keeps.accept _).keeps_bind fun _ _ hks => .ite ?_ ?_
    · exact (h.part _ true true).bind fun _ v hks' hv =>
        entries (hk.mono (List.Subset.trans hks hks')) hv h.indentedEntries
    · exact entries (hk.mono hks) trivial h.indentedEntries
  · exact (Keeps.demand _).keeps_bind fun _ _ _ => .pure fun _ _ => List.forall_mem_nil _

theorem braceEntries_succ (h : YieldsNodes fuel) (isFirst : Bool) :
    Yields ks (Yaml.braceEntries (fuel + 1) isFirst) AreNamed := by
  rw [Yaml.braceEntries]
  extract_lets entry ofKey body
  have yieldsOfKey {ks : List Nat} {k : Node} (hk : k.IsNamed ks) :
      Yields ks (ofKey k) AreNamed := by
    refine (Keeps.accept _).keeps_bind fun _ _ hks => .ite ?_ ?_
    · exact (h.part _ false false).bind fun _ v hks' hv =>
        entries (hk.mono (List.Subset.trans hks hks')) hv (h.braceEntries false)
    · exact entries (hk.mono hks) trivial (h.braceEntries false)
  refine bracketed (fun _ => List.forall_mem_nil _) .braceEnd isFirst fun ks => ?_
  refine (Keeps.accept _).keeps_bind fun _ _ _ => .ite ?_ ?_
  · exact (Keeps.isNext _).keeps_bind fun _ _ _ =>
      .ite (yieldsOfKey trivial) ((h.named false false).bind fun _ _ _ hk => yieldsOfKey hk)
  · exact (h.named false false).bind fun _ _ _ hk => entries hk trivial (h.braceEntries false)

theorem node_succ (h : YieldsNodes fuel) (i j : Bool) :
    Yields ks (Yaml.node (fuel + 1) i j) fun ks' n => n.IsClosed ks' := by
  rw [Yaml.node]
  refine Keeps.peek?.keeps_bind fun _ _ _ => ?_
  split
  · refine Keeps.advance.keeps_bind fun _ _ _ => (yields_anchorNumber _).bind fun _ n _ hn => ?_
    exact .pure fun _ hk => hk hn
  · refine Keeps.anchor?.keeps_bind fun _ first _ => Keeps.tag?.keeps_bind fun _ tag _ => ?_
    extract_lets body
    have yieldsBody (ks : List Nat) (anchor : Option String) :
        Yields ks (body anchor) fun ks' n => n.IsClosed ks' := by
      dsimp -zeta only [body]
      extract_lets scalar list mapping
      have yieldsScalar (ks : List Nat) (text : String) (isPlain : Bool) :
          Yields ks (scalar text isPlain) fun ks' n => n.IsClosed ks' :=
        (Keeps.anchorNode _ _).keeps_bind fun _ _ _ => .pure fun _ _ => trivial
      have yieldsList (ks : List Nat) {items : Composing (List Node)}
          (hi : ∀ {ks}, Keeps ks items) : Yields ks (list items) fun ks' n => n.IsClosed ks' :=
        (Keeps.anchorNode _ _).keeps_bind fun _ _ _ =>
          hi.keeps_bind fun _ _ _ => .pure fun _ _ => trivial
      have yieldsMapping (ks : List Nat) {entries : Composing (List (Node × Node))}
          (he : ∀ {ks}, Yields ks entries AreNamed) :
          Yields ks (mapping entries) fun ks' n => n.IsClosed ks' :=
        (Keeps.anchorNode _ _).keeps_bind fun _ _ _ =>
          he.bind fun _ _ _ hes => .pure fun _ hk => hes.mono hk
      refine Keeps.peek?.keeps_bind fun _ _ _ => ?_
      split
      · exact yieldsList _ h.looseItems
      · exact Keeps.advance.keeps_bind fun _ _ _ => yieldsScalar _ _ _
      · exact Keeps.advance.keeps_bind fun _ _ _ => yieldsList _ (h.bracketItems true)
      · exact Keeps.advance.keeps_bind fun _ _ _ => yieldsMapping _ (h.braceEntries true)
      · exact Keeps.advance.keeps_bind fun _ _ _ => yieldsList _ h.indentedItems
      · exact Keeps.advance.keeps_bind fun _ _ _ => yieldsMapping _ h.indentedEntries
      · exact .ite (yieldsScalar _ _ _) .failure
    exact .ite (yieldsBody _ _) (Keeps.anchor?.keeps_bind fun _ _ _ => yieldsBody _ _)

/-- Reading nodes keeps the anchors sound and gives nodes that are closed. -/
theorem all : ∀ fuel, YieldsNodes fuel
  | 0 => zero
  | fuel + 1 => {
    node := node_succ (all fuel)
    indentedItems := indentedItems_succ (all fuel)
    looseItems := looseItems_succ (all fuel)
    indentedEntries := indentedEntries_succ (all fuel)
    bracketItems := bracketItems_succ (all fuel)
    braceEntries := braceEntries_succ (all fuel) }

end YieldsNodes

/-! ### Documents -/

namespace Document

/-- An entry with its aliases followed. -/
def pair? (d : Document) (e : Node × Node) : Option (Shape × Shape) := do
  return (← d.shape? e.1, ← d.shape? e.2)

/-- The aliases of a mapping's entries all stand for some node. -/
def IsClosed (d : Document) : Prop :=
  ∀ entries, d.root = some (.mapping entries) → ∀ e ∈ entries, (d.pair? e).isSome = true

end Document

end OutageWatch.Yaml
