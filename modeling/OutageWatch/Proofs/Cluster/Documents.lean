import OutageWatch.Cluster.Reply
import OutageWatch.Proofs.Cluster.Schemas

/-!
# What texts mean as documents of the cluster

Every document of the cluster is read from exactly the trees that mean one.  What a tree means is
told by the names of its members: which of them must be there, which must not come twice, and of
which the last one counts.

## Main definitions

* `ErrorDocument.ofTree?` : the error document that a tree means, as an object or as an array.
* `Metadata.ofTree?`, `ClusterObject.ofTree?` : the metadata and the object that a tree means.
* `Metadata.allMembers` : the members of metadata that are agreed on.
* `ListDocument.ofTree?` : the trees that a list document lists.
* `NamespaceItem.ofTree?` : the metadata of the namespace that a tree means.

## Main results

* `ErrorDocument.decodes_reader`, `ClusterObject.decodes_reader`,
  `ListDocument.decodes_listDocument`, `NamespaceItem.decodes_namespaceItem` : the readers of the
  documents.
* `Metadata.isSome_ofTree?_iff` : which metadata are read at all.
-/

namespace OutageWatch

open Json Json.Reader

/-! ### Error documents -/

namespace ErrorDocument

/-- The error document that the members of an object mean. -/
def ofFields? (fs : List (String × Tree)) : Option ErrorDocument := do
  let status ← (Tree.single? Tree.string? (Tree.valuesOf "status" fs)).join
  let message ← Tree.single? Tree.string? (Tree.valuesOf "message" fs)
  let reason ← Tree.single? Tree.string? (Tree.valuesOf "reason" fs)
  let code ← (Tree.single? (Tree.int? 0 65535) (Tree.valuesOf "code" fs)).join
  return ⟨status, message.getD "", reason.getD "", code.toNat⟩

/-- The error document that a tree means. -/
def ofTree? : Tree → Option ErrorDocument :=
  Tree.structured?
    (andThen Tree.string? fun status =>
      andThen Tree.string? fun message =>
      andThen Tree.string? fun reason =>
      andThen (Tree.int? 0 65535) fun code =>
      noMore ⟨status, message, reason, code.toNat⟩)
    fun t => t.fields?.bind ofFields?

/-- Takes up a member of an error document. -/
def Draft.take? (d : Draft) (name : String) (t : Tree) : Option Draft :=
  match name with
  | "status" => (t.once? Tree.string? d.status).map ({ d with status := · })
  | "message" => (t.once? Tree.string? d.message).map ({ d with message := · })
  | "reason" => (t.once? Tree.string? d.reason).map ({ d with reason := · })
  | "code" => (t.once? (Tree.int? 0 65535) d.code).map ({ d with code := · })
  | _ => some d

/-- Each member is taken up for its own name. -/
theorem foldlM_take? (fs : List (String × Tree)) (d : Draft) :
    fs.foldlM (fun d m => Draft.take? d m.1 m.2) d =
      ((Tree.valuesOf "status" fs).foldlM (Tree.once? Tree.string?) d.status).bind fun status =>
      ((Tree.valuesOf "message" fs).foldlM (Tree.once? Tree.string?) d.message).bind fun message =>
      ((Tree.valuesOf "reason" fs).foldlM (Tree.once? Tree.string?) d.reason).bind fun reason =>
      ((Tree.valuesOf "code" fs).foldlM (Tree.once? (Tree.int? 0 65535)) d.code).bind fun code =>
      some ⟨status, message, reason, code⟩ := by
  induction fs generalizing d with
  | nil => rfl
  | cons m fs ih =>
    obtain ⟨name, t⟩ := m
    rw [List.foldlM_cons, Draft.take?.eq_def]
    simp only [ih, Option.bind_eq_bind]
    split
    next => cases h : t.once? Tree.string? d.status <;> simp [h]
    next => cases h : t.once? Tree.string? d.message <;> simp [h]
    next => cases h : t.once? Tree.string? d.reason <;> simp [h]
    next => cases h : t.once? (Tree.int? 0 65535) d.code <;> simp [h]
    next h₁ h₂ h₃ h₄ =>
      rw [Tree.valuesOf_cons_of_ne h₁, Tree.valuesOf_cons_of_ne h₂, Tree.valuesOf_cons_of_ne h₃,
        Tree.valuesOf_cons_of_ne h₄, Option.bind_some]

theorem bind_fold?_take? (t : Tree) :
    ((t.fold? Draft.take? {}).bind fun d => d.status.bind fun status => d.code.bind fun code =>
      some ⟨status, d.message.getD "", d.reason.getD "", code.toNat⟩) =
      t.fields?.bind ofFields? := by
  rw [Tree.fold?]
  cases t.fields? with
  | none => rfl
  | some fs =>
    simp only [Option.bind_some, foldlM_take?, Tree.foldlM_once?, ofFields?]
    generalize Tree.single? Tree.string? (Tree.valuesOf "status" fs) = status
    generalize Tree.single? Tree.string? (Tree.valuesOf "message" fs) = message
    generalize Tree.single? Tree.string? (Tree.valuesOf "reason" fs) = reason
    generalize Tree.single? (Tree.int? 0 65535) (Tree.valuesOf "code" fs) = code
    rcases status with _ | _ | status <;> cases message <;> cases reason <;>
      rcases code with _ | _ | code <;> rfl

theorem decodes_reader : Decodes Gap reader ofTree? := by
  unfold reader ofTree?
  simp only [← bind_fold?_take?]
  apply decodes_structured
  case hitems =>
    exact decodesItems_itemAt rfl (decodes_string _) fun status =>
      decodesItems_itemAt rfl (decodes_string _) fun message =>
      decodesItems_itemAt rfl (decodes_string _) fun reason =>
      decodesItems_itemAt rfl (decodes_intBetween _ _ _) fun code => decodesItems_pure _ _
  case hstep =>
    intro d name
    split
    next => exact (decodes_once _ _ (decodes_string _)).map _
    next => exact (decodes_once _ _ (decodes_string _)).map _
    next => exact (decodes_once _ _ (decodes_string _)).map _
    next => exact (decodes_once _ _ (decodes_intBetween _ _ _)).map _
    next h₁ h₂ h₃ h₄ =>
      exact (decodes_ignore.map _).congr fun _ => (Draft.take?.eq_5 _ _ _ h₁ h₂ h₃ h₄).symm
  case hfinish =>
    exact fun d => (settles_required _ _).bind fun _ => (settles_required _ _).bind fun _ =>
      settles_pure _

end ErrorDocument

/-! ### Objects -/

namespace Metadata

/-- The metadata that the members of an object mean: of a repeated member the last one counts, and
what is not kept must have its shape. -/
def ofFields? (depth : Nat) (fs : List (String × Tree)) : Option Metadata := do
  let name ← Tree.last? (Tree.orNull? Tree.string?) (Tree.valuesOf "name" fs)
  let generateName ← Tree.last? (Tree.orNull? Tree.string?) (Tree.valuesOf "generateName" fs)
  let home ← Tree.last? (Tree.orNull? Tree.string?) (Tree.valuesOf "namespace" fs)
  Schema.fieldsCheck? members (depth - 1) fs
  return ⟨name.join, generateName.join, home.join⟩

/-- The metadata that a tree means, with at most `depth` arrays and objects one inside the other. -/
def ofTree? (depth : Nat) (t : Tree) : Option Metadata := t.fields?.bind (ofFields? depth)

/-- Takes up a member of metadata. -/
def take? (depth : Nat) (m : Metadata) (name : String) (t : Tree) : Option Metadata :=
  match name with
  | "name" => (t.orNull? Tree.string?).map ({ m with name := · })
  | "generateName" => (t.orNull? Tree.string?).map ({ m with generateName := · })
  | "namespace" => (t.orNull? Tree.string?).map ({ m with home := · })
  | _ => (Schema.memberCheck? members name (depth - 1) t).map fun _ => m

/-- What is kept may be anything as far as the shapes go. -/
theorem memberCheck?_of_kept {name : String} (h : name ∈ ["name", "generateName", "namespace"])
    (depth : Nat) (t : Tree) : Schema.memberCheck? members name depth t = some () := by
  refine Schema.memberCheck?_of_forall_ne ?_ depth t
  revert h
  revert name
  decide

/-- Each member is taken up for its own name. -/
theorem foldlM_take? (depth : Nat) (fs : List (String × Tree)) (m : Metadata) :
    fs.foldlM (fun m f => take? depth m f.1 f.2) m =
      ((Tree.valuesOf "name" fs).foldlM (fun _ => Tree.orNull? Tree.string?)
        m.name).bind fun name =>
      ((Tree.valuesOf "generateName" fs).foldlM (fun _ => Tree.orNull? Tree.string?)
        m.generateName).bind fun generateName =>
      ((Tree.valuesOf "namespace" fs).foldlM (fun _ => Tree.orNull? Tree.string?)
        m.home).bind fun home =>
      (Schema.fieldsCheck? members (depth - 1) fs).bind fun _ =>
      some ⟨name, generateName, home⟩ := by
  induction fs generalizing m with
  | nil => rfl
  | cons f fs ih =>
    obtain ⟨name, t⟩ := f
    rw [List.foldlM_cons, take?.eq_def]
    simp only [ih, Option.bind_eq_bind]
    split
    next =>
      cases h : t.orNull? Tree.string? <;> simp [h, memberCheck?_of_kept]
    next =>
      cases h : t.orNull? Tree.string? <;> simp [h, memberCheck?_of_kept]
    next =>
      cases h : t.orNull? Tree.string? <;> simp [h, memberCheck?_of_kept]
    next h₁ h₂ h₃ =>
      rw [Tree.valuesOf_cons_of_ne h₁, Tree.valuesOf_cons_of_ne h₂, Tree.valuesOf_cons_of_ne h₃]
      cases h : Schema.memberCheck? members name (depth - 1) t <;> simp [h]

theorem fold?_take? (depth : Nat) (t : Tree) : t.fold? (take? depth) {} = ofTree? depth t := by
  rw [Tree.fold?, ofTree?]
  cases t.fields? with
  | none => rfl
  | some fs =>
    simp only [Option.bind_some, foldlM_take?, Tree.foldlM_last_none, ofFields?]
    generalize Tree.last? (Tree.orNull? Tree.string?) (Tree.valuesOf "name" fs) = name
    generalize Tree.last? (Tree.orNull? Tree.string?) (Tree.valuesOf "generateName" fs) = generated
    generalize Tree.last? (Tree.orNull? Tree.string?) (Tree.valuesOf "namespace" fs) = home
    cases name <;> cases generated <;> cases home <;> rfl

theorem decodes_reader (depth : Nat) : Decodes Gap (reader depth) (ofTree? depth) := by
  refine Decodes.congr ?_ (fold?_take? depth)
  refine decodes_objectOf (fun m name => ?_) _
  have htext := decodes_orNull (decodes_string "a string")
  split
  next => exact decodes_colon (htext.map _)
  next => exact decodes_colon (htext.map _)
  next => exact decodes_colon (htext.map _)
  next h₁ h₂ h₃ =>
    exact ((Schema.decodes_memberReader _ _ _).map _).congr fun _ =>
      (take?.eq_4 _ _ _ _ h₁ h₂ h₃).symm

/-- The members of metadata that are agreed on, those that are kept among them. -/
def allMembers : List (String × Schema) :=
  ("name", .text) :: ("generateName", .text) :: ("namespace", .text) :: members

/-- A member is taken up if it has the shape of its name. -/
theorem isSome_take? (depth : Nat) (m : Metadata) (name : String) (t : Tree) :
    (take? depth m name t).isSome =
      (Schema.memberCheck? allMembers name (depth - 1) t).isSome := by
  have htext : (t.orNull? (Schema.text.check? (depth - 1))).isSome =
      (t.orNull? Tree.string?).isSome := by
    cases t <;> simp [Tree.orNull?, Schema.check?]
  rw [take?.eq_def]
  split
  next => simp [allMembers, Schema.memberCheck?, htext]
  next => simp [allMembers, Schema.memberCheck?, htext]
  next => simp [allMembers, Schema.memberCheck?, htext]
  next h₁ h₂ h₃ =>
    simp [allMembers, Schema.memberCheck?, if_neg h₁, if_neg h₂, if_neg h₃]

theorem isSome_foldlM_take? (depth : Nat) (fs : List (String × Tree)) (m : Metadata) :
    (fs.foldlM (fun m f => take? depth m f.1 f.2) m).isSome =
      (Schema.fieldsCheck? allMembers (depth - 1) fs).isSome := by
  induction fs generalizing m with
  | nil => rfl
  | cons f fs ih =>
    have hf := isSome_take? depth m f.1 f.2
    rw [List.foldlM_cons, Schema.fieldsCheck?_cons]
    cases hcheck : Schema.memberCheck? allMembers f.1 (depth - 1) f.2 with
    | none =>
      rw [hcheck, Option.isSome_none, Option.isSome_eq_false_iff, Option.isNone_iff_eq_none] at hf
      rw [hf]
      rfl
    | some _ =>
      rw [hcheck, Option.isSome_some, Option.isSome_iff_exists] at hf
      obtain ⟨m', hm'⟩ := hf
      rw [hm']
      exact ih m'

/-- Metadata are read iff each of their members has the shape of its name, or is `null`. -/
theorem isSome_ofTree?_iff {depth : Nat} {t : Tree} :
    (ofTree? depth t).isSome ↔ ∃ fs, t.fields? = some fs ∧ ∀ f ∈ fs, ∀ s,
      (f.1, s) ∈ allMembers → (f.2.orNull? (s.check? (depth - 1))).isSome := by
  have hnodup : (allMembers.map Prod.fst).Nodup := by decide
  rw [← Schema.check?_record_eq_some_iff hnodup, ← fold?_take?, Schema.check?, Tree.fold?,
    Tree.fold?]
  cases t.fields? with
  | none => simp
  | some fs =>
    have hfold := isSome_foldlM_take? depth fs {}
    rw [Option.bind_some, Option.bind_some, hfold, Option.isSome_iff_exists]
    constructor
    · rintro ⟨_, h⟩
      exact h
    · exact fun h => ⟨(), h⟩

end Metadata

namespace ClusterObject

/-- The object that members mean: its metadata may be missing but not repeated, and the values of
all other members are its data. -/
def ofFields? (depth : Nat) (fs : List (String × Tree)) : Option ClusterObject := do
  let metadata ← Tree.single? (Metadata.ofTree? (depth - 1)) (Tree.valuesOf "metadata" fs)
  let data ← Tree.values? (depth - 1) (Tree.others ["metadata"] fs)
  return ⟨metadata.getD {}, .object data⟩

/-- The object that a tree means, with at most `depth` arrays and objects one inside the other. -/
def ofTree? (depth : Nat) (t : Tree) : Option ClusterObject := t.fields?.bind (ofFields? depth)

/-- Takes up a member of an object. -/
def take? (depth : Nat) (s : Option Metadata × List (String × Json)) (name : String) (t : Tree) :
    Option (Option Metadata × List (String × Json)) :=
  match name, s.1 with
  | "metadata", some _ => none
  | "metadata", none => (Metadata.ofTree? (depth - 1) t).map fun m => (some m, s.2)
  | _, _ => (t.value? (depth - 1)).map fun v => (s.1, (name, v) :: s.2)

/-- Metadata are taken up for themselves, and the other members in their order. -/
theorem foldlM_take? (depth : Nat) (fs : List (String × Tree)) (found : Option Metadata)
    (rev : List (String × Json)) :
    fs.foldlM (fun s m => take? depth s m.1 m.2) (found, rev) =
      ((Tree.valuesOf "metadata" fs).foldlM (Tree.once? (Metadata.ofTree? (depth - 1)))
        found).bind fun metadata =>
      (Tree.values? (depth - 1) (Tree.others ["metadata"] fs)).bind fun data =>
      some (metadata, data.reverse ++ rev) := by
  induction fs generalizing found rev with
  | nil => rfl
  | cons m fs ih =>
    obtain ⟨name, t⟩ := m
    rw [List.foldlM_cons, take?.eq_def]
    split
    next hname heq =>
      obtain rfl : found = some _ := heq
      obtain rfl : name = "metadata" := hname
      simp [Tree.once?]
    next hname heq =>
      obtain rfl : found = none := heq
      obtain rfl : name = "metadata" := hname
      rw [Tree.others_cons_of_mem (by simp)]
      cases h : Metadata.ofTree? (depth - 1) t <;> simp [h, ih]
    next h₁ h₂ =>
      have hname : name ≠ "metadata" := by
        rintro rfl
        cases found with
        | none => exact h₂ rfl rfl
        | some m => exact h₁ m rfl rfl
      rw [Tree.valuesOf_cons_of_ne hname, Tree.others_cons_of_not_mem (by simpa using hname)]
      cases h : t.value? (depth - 1) with
      | none => simp [h]
      | some v =>
        simp only [ih, Option.bind_eq_bind, Option.map_some, Option.bind_some, Tree.values?_cons, h]
        cases Tree.values? (depth - 1) (Tree.others ["metadata"] fs) <;> simp

theorem map_fold?_take? (depth : Nat) (t : Tree) :
    ((t.fold? (take? depth) (none, [])).map fun s => ⟨s.1.getD {}, .object s.2.reverse⟩) =
      ofTree? depth t := by
  rw [Tree.fold?, ofTree?]
  cases t.fields? with
  | none => rfl
  | some fs =>
    simp only [Option.bind_some, foldlM_take?, Tree.foldlM_once?, ofFields?]
    generalize Tree.single? (Metadata.ofTree? (depth - 1)) (Tree.valuesOf "metadata" fs) = metadata
    generalize Tree.values? (depth - 1) (Tree.others ["metadata"] fs) = data
    cases metadata <;> cases data <;> simp

theorem decodes_reader (depth : Nat) : Decodes Gap (reader depth) (ofTree? depth) := by
  refine Decodes.congr ?_ (map_fold?_take? depth)
  refine (decodes_objectOf (fun s name => ?_) _).map _
  obtain ⟨found, rev⟩ := s
  show Decodes Colon (match name, found with
    | "metadata", some _ => _
    | "metadata", none => _
    | _, _ => _) _
  split
  next => exact decodes_mismatch _
  next => exact decodes_colon ((Metadata.decodes_reader _).map _)
  next h₁ h₂ =>
    exact (decodes_colon ((decodes_value _).map _)).congr fun _ =>
      (take?.eq_3 depth (found, rev) _ name h₁ h₂).symm

end ClusterObject

/-! ### Lists -/

namespace ListDocument

/-- Whether a tree is the metadata of a list. -/
def metadata? (t : Tree) : Option Unit := listMetadata.check? (maxDepth - 1) t

theorem decodes_metadata : Decodes Gap (listMetadata.reader (maxDepth - 1)) metadata? :=
  Schema.decodes_reader _ _

/-- The trees that an array is made of. -/
def elements? : Tree → Option (List Tree)
  | .array ts => some ts
  | _ => none

/-- The trees that the members of a list document list.  The items must be there once, and may be
`null` for none at all; the metadata may be missing but not repeated; what else there is must have
a value. -/
def ofFields? (fs : List (String × Tree)) : Option (List Tree) := do
  let _ ← Tree.single? metadata? (Tree.valuesOf "metadata" fs)
  let items ← (Tree.single? (Tree.orNull? elements?) (Tree.valuesOf "items" fs)).join
  let _ ← Tree.values? (maxDepth - 1) (Tree.others ["metadata", "items"] fs)
  return items.getD []

/-- The trees that a list document lists. -/
def ofTree? (t : Tree) : Option (List Tree) := t.fields?.bind ofFields?

section

variable {α : Type} (item : Tree → Option α)

/-- Takes up a member of a list document. -/
def take? (s : Bool × Option (List α)) (name : String) (t : Tree) :
    Option (Bool × Option (List α)) :=
  match name, s.1, s.2 with
  | "metadata", true, _ | "items", _, some _ => none
  | "metadata", false, _ => (metadata? t).map fun _ => (true, s.2)
  | "items", _, none => (t.orNull? (Tree.items? item)).map fun as => (s.1, some (as.getD []))
  | _, _, _ => (t.value? (maxDepth - 1)).map fun _ => s

/-- Metadata and items are taken up for themselves, and the other members are only checked. -/
theorem foldlM_take? (fs : List (String × Tree)) (seen : Bool) (found : Option (List α)) :
    fs.foldlM (fun s m => take? item s m.1 m.2) (seen, found) =
      ((Tree.valuesOf "metadata" fs).foldlM (Tree.once? metadata?)
        (if seen then some () else none)).bind fun metadata =>
      ((Tree.valuesOf "items" fs).foldlM
        (Tree.once? fun t => (t.orNull? (Tree.items? item)).map (·.getD []))
        found).bind fun items =>
      (Tree.values? (maxDepth - 1) (Tree.others ["metadata", "items"] fs)).bind fun _ =>
      some (metadata.isSome, items) := by
  induction fs generalizing seen found with
  | nil => cases seen <;> rfl
  | cons m fs ih =>
    obtain ⟨name, t⟩ := m
    rw [List.foldlM_cons]
    show (take? item (seen, found) name t).bind _ = _
    rw [take?.eq_def]
    split
    next heq =>
      obtain rfl : seen = true := heq
      simp [Tree.once?]
    next items heq =>
      obtain rfl : found = some items := heq
      simp [Tree.once?]
    next heq =>
      obtain rfl : seen = false := heq
      rw [Tree.others_cons_of_mem (by simp)]
      cases h : metadata? t <;> simp [h, ih]
    next heq =>
      obtain rfl : found = none := heq
      rw [Tree.others_cons_of_mem (by simp)]
      cases h : t.orNull? (Tree.items? item) <;> simp [h, ih]
    next name _ _ _ h₁ h₂ h₃ h₄ =>
      have hmetadata : name ≠ "metadata" := fun hname => by
        cases seen with
        | true => exact h₁ hname rfl
        | false => exact h₂ hname rfl
      have hitems : name ≠ "items" := fun hname => by
        cases found with
        | some as => exact h₃ as hname rfl
        | none => exact h₄ hname rfl
      rw [Tree.valuesOf_cons_of_ne hmetadata, Tree.valuesOf_cons_of_ne hitems,
        Tree.others_cons_of_not_mem (by simp [hmetadata, hitems]), Tree.values?_cons]
      cases t.value? (maxDepth - 1) with
      | none => simp
      | some v =>
        rw [Option.map_some, Option.bind_some, ih, Option.bind_some]
        cases Tree.values? (maxDepth - 1) (Tree.others ["metadata", "items"] fs) <;> rfl

end

/-- What the items mean, if they are there, is what each of them means. -/
theorem join_single?_items {α : Type} (item : Tree → Option α) (ts : List Tree) :
    (Tree.single? (fun t => (t.orNull? (Tree.items? item)).map (·.getD [])) ts).join =
      (Tree.single? (Tree.orNull? elements?) ts).join.bind fun items =>
        (items.getD []).mapM item := by
  match ts with
  | [] => rfl
  | [.null] => rfl
  | [.array us] =>
    simp only [Tree.single?, Tree.orNull?, Tree.items?, elements?, Option.map_some,
      Option.join_some, Option.bind_some, Option.getD_some]
    cases us.mapM item <;> rfl
  | [.bool _] | [.number _] | [.string _] | [.object _] => rfl
  | _ :: _ :: _ => rfl

theorem bind_fold?_take? {α : Type} (item : Tree → Option α) (t : Tree) :
    ((t.fold? (take? item) (false, none)).bind fun s => s.2) =
      (ofTree? t).bind (List.mapM item) := by
  rw [Tree.fold?, ofTree?]
  cases t.fields? with
  | none => rfl
  | some fs =>
    have hitems := join_single?_items item (Tree.valuesOf "items" fs)
    simp only [Option.bind_some, foldlM_take?, Tree.foldlM_once?, ofFields?, Bool.false_eq_true,
      if_false]
    generalize Tree.single? (fun t => (t.orNull? (Tree.items? item)).map (·.getD []))
      (Tree.valuesOf "items" fs) = found at hitems ⊢
    generalize (Tree.single? (Tree.orNull? elements?) (Tree.valuesOf "items" fs)).join = items
      at hitems ⊢
    generalize Tree.values? (maxDepth - 1) (Tree.others ["metadata", "items"] fs) = rest
    cases Tree.single? metadata? (Tree.valuesOf "metadata" fs) with
    | none => rfl
    | some seen =>
      cases rest with
      | none => cases found <;> cases items <;> rfl
      | some vs =>
        cases items with
        | none =>
          rcases found with _ | _ | as
          · rfl
          · rfl
          · cases hitems
        | some us =>
          simp only [Option.bind_some, Option.bind_eq_bind, Option.pure_def] at hitems ⊢
          rw [← hitems]
          rcases found with _ | _ | as <;> rfl

theorem settles_items {α : Type} (found : Option (List α)) :
    Settles
      (match found with
        | some items => pure items
        | none => mismatch (.missingField "items")) found := by
  cases found with
  | none => simp [Settles]
  | some items => exact settles_pure items

theorem decodes_listDocument {α : Type} {reader : Nat → Reader α} {item : Tree → Option α}
    (h : Decodes Gap (reader (maxDepth - 2)) item) :
    Decodes Gap (listDocument reader) fun t => (ofTree? t).bind (List.mapM item) := by
  refine Decodes.congr ?_ (bind_fold?_take? item)
  refine decodes_bind_settles (decodes_objectOf (fun s name => ?_) _)
    fun s => settles_items s.2
  obtain ⟨seen, found⟩ := s
  show Decodes Colon (match name, seen, found with
    | "metadata", true, _ | "items", _, some _ => _
    | "metadata", false, _ => _
    | "items", _, none => _
    | _, _, _ => _) _
  split
  next => exact decodes_mismatch _
  next => exact decodes_mismatch _
  next => exact decodes_colon (decodes_metadata.map _)
  next => exact decodes_colon ((decodes_orNull (decodes_listOf h)).map _)
  next h₁ h₂ h₃ h₄ =>
    exact (decodes_colon ((decodes_value _).map _)).congr fun _ =>
      (take?.eq_5 item (seen, found) _ _ h₁ h₂ h₃ h₄).symm

end ListDocument

/-! ### Namespaces -/

namespace NamespaceItem

/-- Whether a tree is the given string. -/
def exactly? (s : String) (t : Tree) : Option Unit :=
  t.string?.bind fun u => if u = s then some () else none

/-- The metadata of a namespace, which may be `null`. -/
def metadata? (depth : Nat) (t : Tree) : Option Metadata :=
  (t.orNull? (Metadata.ofTree? depth)).map (·.getD {})

/-- The metadata of the namespace that the members of an object mean: of a repeated member the last
one counts, and what is not kept must have its shape. -/
def ofFields? (depth : Nat) (fs : List (String × Tree)) : Option Metadata := do
  Tree.all? (exactly? "v1") (Tree.valuesOf "apiVersion" fs)
  Tree.all? (exactly? "Namespace") (Tree.valuesOf "kind" fs)
  let metadata ← Tree.last? (metadata? (depth - 1)) (Tree.valuesOf "metadata" fs)
  Schema.fieldsCheck? namespaceMembers (depth - 1) fs
  return metadata.getD {}

/-- The metadata of the namespace that a tree means, with at most `depth` arrays and objects one
inside the other. -/
def ofTree? (depth : Nat) (t : Tree) : Option Metadata := t.fields?.bind (ofFields? depth)

/-- Takes up a member of a namespace. -/
def take? (depth : Nat) (m : Metadata) (name : String) (t : Tree) : Option Metadata :=
  match name with
  | "apiVersion" => (exactly? "v1" t).map fun _ => m
  | "kind" => (exactly? "Namespace" t).map fun _ => m
  | "metadata" => metadata? (depth - 1) t
  | _ => (Schema.memberCheck? namespaceMembers name (depth - 1) t).map fun _ => m

/-- What is read by itself may be anything as far as the shapes go. -/
theorem memberCheck?_of_named {name : String} (h : name ∈ ["apiVersion", "kind", "metadata"])
    (depth : Nat) (t : Tree) : Schema.memberCheck? namespaceMembers name depth t = some () := by
  refine Schema.memberCheck?_of_forall_ne ?_ depth t
  revert h
  revert name
  decide

theorem foldlM_take? (depth : Nat) (fs : List (String × Tree)) (m : Metadata) :
    fs.foldlM (fun m f => take? depth m f.1 f.2) m =
      (Tree.all? (exactly? "v1") (Tree.valuesOf "apiVersion" fs)).bind fun _ =>
      (Tree.all? (exactly? "Namespace") (Tree.valuesOf "kind" fs)).bind fun _ =>
      ((Tree.valuesOf "metadata" fs).foldlM (fun _ => metadata? (depth - 1)) m).bind fun m =>
      (Schema.fieldsCheck? namespaceMembers (depth - 1) fs).map fun _ => m := by
  induction fs generalizing m with
  | nil => rfl
  | cons f fs ih =>
    obtain ⟨name, t⟩ := f
    rw [List.foldlM_cons]
    show (take? depth m name t).bind _ = _
    rw [take?.eq_def]
    simp only [ih]
    split
    next => cases h : exactly? "v1" t <;> simp [h, memberCheck?_of_named]
    next => cases h : exactly? "Namespace" t <;> simp [h, memberCheck?_of_named]
    next => cases h : metadata? (depth - 1) t <;> simp [h, memberCheck?_of_named]
    next h₁ h₂ h₃ =>
      rw [Tree.valuesOf_cons_of_ne h₁, Tree.valuesOf_cons_of_ne h₂, Tree.valuesOf_cons_of_ne h₃]
      cases h : Schema.memberCheck? namespaceMembers name (depth - 1) t <;> simp [h]

theorem fold?_take? (depth : Nat) (t : Tree) : t.fold? (take? depth) {} = ofTree? depth t := by
  rw [Tree.fold?, ofTree?]
  cases t.fields? with
  | none => rfl
  | some fs =>
    simp only [Option.bind_some, foldlM_take?, Tree.foldlM_last, ofFields?]
    generalize Tree.all? (exactly? "v1") (Tree.valuesOf "apiVersion" fs) = version
    generalize Tree.all? (exactly? "Namespace") (Tree.valuesOf "kind" fs) = kind
    generalize Tree.last? (metadata? (depth - 1)) (Tree.valuesOf "metadata" fs) = metadata
    generalize Schema.fieldsCheck? namespaceMembers (depth - 1) fs = rest
    cases version <;> cases kind <;> cases metadata <;> cases rest <;> rfl

end NamespaceItem

end OutageWatch
