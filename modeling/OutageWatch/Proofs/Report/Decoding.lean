import OutageWatch.Report.Reader
import OutageWatch.Proofs.Json.Values

/-!
# What texts mean as reports

Every structure of a report is read from exactly the trees that mean such a structure.  A tree
means one if it is an object whose members, taken up one after the other, fill in all that must be
there, each at most once; or if it is an array of the members in their order.

## Main definitions

* `Interval.ofTree?`, `Workload.ofTree?`, `Namespace.ofTree?`, `Report.ofTree?` : the meaning of a
  tree.

## Main results

* `Report.parse_eq_ok` : the texts that are read as a report.
-/

namespace OutageWatch

open Json Json.Reader

/-! ### Intervals -/

/-- The whole number of 64 bits that a tree is. -/
abbrev Json.Tree.int64? : Tree → Option Int := Tree.int? leastInt greatestInt

/-- Takes up a member of an interval. -/
def Interval.Draft.take? (d : Interval.Draft) (name : String) (t : Tree) :
    Option Interval.Draft :=
  match name with
  | "start" => (t.once? Tree.int64? d.start).map ({ d with start := · })
  | "end" => (t.once? (Tree.orNull? Tree.int64?) d.finish).map ({ d with finish := · })
  | _ => some d

/-- The interval that a tree means. -/
def Interval.ofTree? : Tree → Option Interval :=
  Tree.structured?
    (andThen Tree.int64? fun start =>
      andThen (Tree.orNull? Tree.int64?) fun finish =>
      noMore ⟨start, finish⟩)
    fun t => (t.fold? Interval.Draft.take? {}).bind fun d =>
      d.start.bind fun start => some ⟨start, d.finish.getD none⟩

theorem Interval.decodes_reader : Decodes Gap Interval.reader Interval.ofTree? := by
  unfold Interval.reader Interval.ofTree?
  apply decodes_structured
  case hitems =>
    exact decodesItems_itemAt rfl decodes_int64 fun start =>
      decodesItems_itemAt rfl (decodes_orNull decodes_int64) fun finish => decodesItems_pure _ _
  case hstep =>
    intro d name
    split
    next => exact (decodes_once _ _ decodes_int64).map _
    next => exact (decodes_once _ _ (decodes_orNull decodes_int64)).map _
    next h₁ h₂ =>
      exact (decodes_ignore.map _).congr fun _ => (Interval.Draft.take?.eq_3 _ _ _ h₁ h₂).symm
  case hfinish => exact fun d => (settles_required _ _).bind fun _ => settles_pure _

/-- The history that a tree means. -/
def Downtimes.ofTree? (t : Tree) : Option Downtimes := (t.items? Interval.ofTree?).map Downtimes.mk

theorem Downtimes.decodes_reader : Decodes Gap Downtimes.reader Downtimes.ofTree? :=
  (decodes_listOf Interval.decodes_reader).map Downtimes.mk

/-! ### Workloads -/

/-- The kind that a tree means. -/
def Kind.ofTree? : Tree → Option Kind
  | .string ps => (Piece.name? false ps).bind Kind.ofIdentifier?
  | .object [(ps, .null)] => (Piece.name? false ps).bind Kind.ofIdentifier?
  | _ => none

theorem Kind.settles_named (s : String) : Settles (Kind.named s) (Kind.ofIdentifier? s) := by
  rw [Kind.named]
  cases Kind.ofIdentifier? s with
  | none => simp [Settles]
  | some k => exact settles_pure k

theorem Kind.sound_reader : Sound Gap Kind.reader Kind.ofTree? := by
  intro text k rest hrun
  obtain ⟨c, cs, hgap, hrun⟩ := exists_of_run_token? hrun rfl
  split at hrun
  next => contradiction
  next heq =>
    obtain rfl := Option.some.inj heq
    obtain ⟨name, mid, hname, hrun⟩ := run_bind_eq_ok.mp hrun
    obtain ⟨ps, hps, hps'⟩ := quotedString_sound hname
    obtain ⟨rfl, hk⟩ := (Kind.settles_named name _ _ _).mp hrun
    exact ⟨_, .string ps, hgap, .string hps, by rw [Kind.ofTree?, hps', Option.bind_some, hk]⟩
  next heq =>
    obtain rfl := Option.some.inj heq
    rw [run_advance_bind, List.tail_cons] at hrun
    obtain ⟨name, after, hname, hrun⟩ := run_bind_eq_ok.mp hrun
    obtain ⟨start, t, hlead, ht, hname⟩ := (decodes_string _).sound hname
    obtain ⟨k', _, hnamed, htail⟩ := run_bind_eq_ok.mp hrun
    obtain ⟨rfl, hk⟩ := (Kind.settles_named name _ _ _).mp hnamed
    obtain ⟨_, value, hcolon, hrun⟩ := run_bind_eq_ok.mp htail
    obtain ⟨d, ds, hgap', hrun⟩ := exists_of_run_token? hrun (by rfl)
    split at hrun
    next => contradiction
    next =>
      obtain ⟨_, mid, hword, hrun⟩ := run_bind_eq_ok.mp hrun
      obtain ⟨_, _, hend, hrun⟩ := run_bind_eq_ok.mp hrun
      obtain ⟨rfl, rfl⟩ := Prod.mk.inj (Except.ok.inj hrun)
      rw [run_word_eq_ok.mp hword] at hgap'
      cases ht with
      | @string ps _ _ hps =>
        refine ⟨_, .object [(ps, .null)], hgap, .object (.cons (.first hlead) hps
          ⟨value, colon_sound hcolon, hgap'⟩ (.null mid) (.nil (endObject_sound hend))), ?_⟩
        rw [Kind.ofTree?, show Piece.name? false ps = some name from hname, Option.bind_some, hk]
      | _ => contradiction
    next =>
      obtain ⟨_, _, hwrong, _⟩ := run_bind_eq_ok.mp hrun
      exact absurd hwrong (run_unexpected_ne_ok _ _ _)
  next => contradiction

theorem Kind.complete_reader (n : Nat) : CompleteUpTo n Gap Kind.reader Kind.ofTree? := by
  intro text start rest t k _ hgap ht hk hrest
  rw [Kind.reader, run_token?_of_spans _ hgap ht]
  rw [Kind.ofTree?.eq_def] at hk
  split at hk
  next ps =>
    obtain ⟨name, hname, hk⟩ := Option.bind_eq_some_iff.mp hk
    cases ht with | string hps =>
    cases hps with | mk hps =>
    show (quotedString false >>= _).run _ = _
    rw [run_bind_of_run (quotedString_complete (.mk hps) hname)]
    exact (Kind.settles_named name _ _ _).mpr ⟨rfl, hk⟩
  next ps =>
    obtain ⟨name, hname, hk⟩ := Option.bind_eq_some_iff.mp hk
    cases ht with | object hms =>
    cases hms with | cons hlead hps hcolon ht hms =>
    cases hlead with | first hlead =>
    obtain ⟨value, hcolon, hgap'⟩ := hcolon
    cases ht with | null =>
    cases hms with | nil hend =>
    show (advance >>= fun _ => Reader.string "variant identifier" >>= _).run _ = _
    have hstring := string_complete "variant identifier" hlead hps hname
    rw [run_advance_bind, List.tail_cons, run_bind_of_run hstring,
      run_bind_of_run ((Kind.settles_named name _ _ _).mpr ⟨rfl, hk⟩),
      run_bind_of_run (colon_complete hcolon), run_token?_of_gap _ hgap' rfl]
    exact (run_bind_of_run (run_word ['n', 'u', 'l', 'l'] _)).trans (by
      rw [run_bind_of_run (endObject_complete hend), run_pure])
  next => contradiction

theorem Kind.decodes_reader : Decodes Gap Kind.reader Kind.ofTree? :=
  ⟨Kind.sound_reader, Kind.complete_reader⟩

/-- Takes up a member of a workload. -/
def Workload.Draft.take? (d : Workload.Draft) (name : String) (t : Tree) :
    Option Workload.Draft :=
  match name with
  | "kind" => (t.once? Kind.ofTree? d.kind).map ({ d with kind := · })
  | "name" => (t.once? Tree.string? d.name).map ({ d with name := · })
  | "namespace" => (t.once? Tree.string? d.home).map ({ d with home := · })
  | "downtimes" => (t.once? Downtimes.ofTree? d.downtimes).map ({ d with downtimes := · })
  | "downtimeInSeconds" =>
    (t.once? Tree.int64? d.downtimeInSeconds).map ({ d with downtimeInSeconds := · })
  | _ => some d

/-- The workload that a tree means. -/
def Workload.ofTree? : Tree → Option Workload :=
  Tree.structured?
    (andThen Kind.ofTree? fun kind =>
      andThen Tree.string? fun name =>
      andThen Tree.string? fun home =>
      andThen Downtimes.ofTree? fun downtimes =>
      andThen Tree.int64? fun downtimeInSeconds =>
      noMore ⟨kind, name, home, downtimes, downtimeInSeconds⟩)
    fun t => (t.fold? Workload.Draft.take? {}).bind fun d =>
      d.kind.bind fun kind =>
      d.name.bind fun name =>
      d.home.bind fun home =>
      d.downtimes.bind fun downtimes =>
      d.downtimeInSeconds.bind fun downtimeInSeconds =>
      some ⟨kind, name, home, downtimes, downtimeInSeconds⟩

theorem Workload.decodes_reader : Decodes Gap Workload.reader Workload.ofTree? := by
  unfold Workload.reader Workload.ofTree?
  apply decodes_structured
  case hitems =>
    exact decodesItems_itemAt rfl Kind.decodes_reader fun kind =>
      decodesItems_itemAt rfl (decodes_string _) fun name =>
      decodesItems_itemAt rfl (decodes_string _) fun home =>
      decodesItems_itemAt rfl Downtimes.decodes_reader fun downtimes =>
      decodesItems_itemAt rfl decodes_int64 fun downtimeInSeconds =>
      decodesItems_pure _ _
  case hstep =>
    intro d name
    split
    next => exact (decodes_once _ _ Kind.decodes_reader).map _
    next => exact (decodes_once _ _ (decodes_string _)).map _
    next => exact (decodes_once _ _ (decodes_string _)).map _
    next => exact (decodes_once _ _ Downtimes.decodes_reader).map _
    next => exact (decodes_once _ _ decodes_int64).map _
    next h₁ h₂ h₃ h₄ h₅ =>
      exact (decodes_ignore.map _).congr fun _ =>
        (Workload.Draft.take?.eq_6 _ _ _ h₁ h₂ h₃ h₄ h₅).symm
  case hfinish =>
    exact fun d => (settles_required _ _).bind fun _ => (settles_required _ _).bind fun _ =>
      (settles_required _ _).bind fun _ => (settles_required _ _).bind fun _ =>
      (settles_required _ _).bind fun _ => settles_pure _

/-! ### Namespaces -/

/-- Takes up a member of a namespace. -/
def Namespace.Draft.take? (d : Namespace.Draft) (name : String) (t : Tree) :
    Option Namespace.Draft :=
  match name with
  | "name" => (t.once? Tree.string? d.name).map ({ d with name := · })
  | "deploymentConfigs" =>
    (t.once? (Tree.items? Workload.ofTree?) d.deploymentConfigs).map
      ({ d with deploymentConfigs := · })
  | "deployments" =>
    (t.once? (Tree.items? Workload.ofTree?) d.deployments).map ({ d with deployments := · })
  | "statefulSets" =>
    (t.once? (Tree.items? Workload.ofTree?) d.statefulSets).map ({ d with statefulSets := · })
  | "downtimes" => (t.once? Downtimes.ofTree? d.downtimes).map ({ d with downtimes := · })
  | "downtimeInSeconds" =>
    (t.once? Tree.int64? d.downtimeInSeconds).map ({ d with downtimeInSeconds := · })
  | _ => some d

/-- The namespace that a tree means. -/
def Namespace.ofTree? : Tree → Option Namespace :=
  Tree.structured?
    (andThen Tree.string? fun name =>
      andThen (Tree.items? Workload.ofTree?) fun deploymentConfigs =>
      andThen (Tree.items? Workload.ofTree?) fun deployments =>
      andThen (Tree.items? Workload.ofTree?) fun statefulSets =>
      andThen Downtimes.ofTree? fun downtimes =>
      andThen Tree.int64? fun downtimeInSeconds =>
      noMore ⟨name, ⟨deploymentConfigs, deployments, statefulSets⟩, downtimes, downtimeInSeconds⟩)
    fun t => (t.fold? Namespace.Draft.take? {}).bind fun d =>
      d.name.bind fun name =>
      d.deploymentConfigs.bind fun deploymentConfigs =>
      d.deployments.bind fun deployments =>
      d.statefulSets.bind fun statefulSets =>
      d.downtimes.bind fun downtimes =>
      d.downtimeInSeconds.bind fun downtimeInSeconds =>
      some ⟨name, ⟨deploymentConfigs, deployments, statefulSets⟩, downtimes, downtimeInSeconds⟩

theorem Namespace.decodes_reader : Decodes Gap Namespace.reader Namespace.ofTree? := by
  have hworkloads := decodes_listOf Workload.decodes_reader
  unfold Namespace.reader Namespace.ofTree?
  apply decodes_structured
  case hitems =>
    exact decodesItems_itemAt rfl (decodes_string _) fun name =>
      decodesItems_itemAt rfl hworkloads fun deploymentConfigs =>
      decodesItems_itemAt rfl hworkloads fun deployments =>
      decodesItems_itemAt rfl hworkloads fun statefulSets =>
      decodesItems_itemAt rfl Downtimes.decodes_reader fun downtimes =>
      decodesItems_itemAt rfl decodes_int64 fun downtimeInSeconds =>
      decodesItems_pure _ _
  case hstep =>
    intro d name
    split
    next => exact (decodes_once _ _ (decodes_string _)).map _
    next => exact (decodes_once _ _ hworkloads).map _
    next => exact (decodes_once _ _ hworkloads).map _
    next => exact (decodes_once _ _ hworkloads).map _
    next => exact (decodes_once _ _ Downtimes.decodes_reader).map _
    next => exact (decodes_once _ _ decodes_int64).map _
    next h₁ h₂ h₃ h₄ h₅ h₆ =>
      exact (decodes_ignore.map _).congr fun _ =>
        (Namespace.Draft.take?.eq_7 _ _ _ h₁ h₂ h₃ h₄ h₅ h₆).symm
  case hfinish =>
    exact fun d => (settles_required _ _).bind fun _ => (settles_required _ _).bind fun _ =>
      (settles_required _ _).bind fun _ => (settles_required _ _).bind fun _ =>
      (settles_required _ _).bind fun _ => (settles_required _ _).bind fun _ => settles_pure _

/-! ### Reports -/

namespace Report

/-- Takes up a member of a report. -/
def Draft.take? (d : Draft) (name : String) (t : Tree) : Option Draft :=
  match name with
  | "namespaces" =>
    (t.once? (Tree.items? Namespace.ofTree?) d.namespaces).map ({ d with namespaces := · })
  | "start" => (t.once? Tree.int64? d.start).map ({ d with start := · })
  | "end" => (t.once? Tree.int64? d.finish).map ({ d with finish := · })
  | _ => some d

/-- The report that a tree means. -/
def ofTree? : Tree → Option Report :=
  Tree.structured?
    (andThen (Tree.items? Namespace.ofTree?) fun namespaces =>
      andThen Tree.int64? fun start =>
      andThen Tree.int64? fun finish =>
      noMore ⟨namespaces, start, finish⟩)
    fun t => (t.fold? Draft.take? {}).bind fun d =>
      d.namespaces.bind fun namespaces =>
      d.start.bind fun start =>
      d.finish.bind fun finish =>
      some ⟨namespaces, start, finish⟩

theorem decodes_reader : Decodes Gap reader ofTree? := by
  have hnamespaces := decodes_listOf Namespace.decodes_reader
  unfold reader ofTree?
  apply decodes_structured
  case hitems =>
    exact decodesItems_itemAt rfl hnamespaces fun namespaces =>
      decodesItems_itemAt rfl decodes_int64 fun start =>
      decodesItems_itemAt rfl decodes_int64 fun finish => decodesItems_pure _ _
  case hstep =>
    intro d name
    split
    next => exact (decodes_once _ _ hnamespaces).map _
    next => exact (decodes_once _ _ decodes_int64).map _
    next => exact (decodes_once _ _ decodes_int64).map _
    next h₁ h₂ h₃ =>
      exact (decodes_ignore.map _).congr fun _ => (Draft.take?.eq_4 _ _ _ h₁ h₂ h₃).symm
  case hfinish =>
    exact fun d => (settles_required _ _).bind fun _ => (settles_required _ _).bind fun _ =>
      (settles_required _ _).bind fun _ => settles_pure _

/-- The texts that are read as a report. -/
theorem parse_eq_ok {text : List Char} {r : Report} :
    parse text = .ok r ↔ ∃ t, Tree.IsText t text ∧ ofTree? t = some r :=
  readAll_eq_ok decodes_reader

end Report

end OutageWatch
