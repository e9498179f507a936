import ClusterAdmission.Proofs.Chain.Outages
import ClusterAdmission.Proofs.Policy.Creation
import Mathlib.Data.List.TakeWhile

/-!
# Chains of layers

A chain is its layers around its end, the last one innermost (`Chain.handle_eq_foldl`). A check
leaves the store as it is, so all policy layers of a chain see one store and come to one verdict
(`Chain.verdict`): the first one decides for all. An operation that passes is served by the end and
noted by every noting layer (`Chain.through_of_passed`); one that does not pass is answered by the
first policy layer, and noted by those in front of it (`Chain.through_of_stopped`). Together they
say what a chain does with any operation (`Chain.layers_compose`).
-/

namespace ClusterAdmission

/-! ## Layers and their names -/

/-- The name under which a layer notes creations of clusters, if it does. -/
def Layer.noteName? : Layer → Option String
  | .policy => none
  | .noting name => some name

theorem Layer.name_ofName (name : String) : (ofName name).name = name := by
  unfold ofName
  split
  · next h => exact h.symm
  · rfl

namespace Chain

/-- The chain of declared layers has their names, and the end is the last one. -/
theorem names_ofName (c : Chain) (declared : List String) :
    { c with layers := declared.map Layer.ofName }.names = declared ++ ["terminal"] := by
  have hnames : (declared.map Layer.ofName).map Layer.name = declared := by
    simp [Function.comp_def, Layer.name_ofName]
  exact congrArg (· ++ ["terminal"]) hnames

/-- The chain without its noting layers, and with one policy layer in place of all. -/
def merged (c : Chain) : Chain :=
  { c with layers := if .policy ∈ c.layers then [.policy] else [] }

variable (c : Chain) (context : Context) (op : Operation)

/-- A layer in front of what serves an operation. -/
def wrap (layer : Layer) (next : State → Reply op.Result) (s : State) : Reply op.Result :=
  match layer with
  | .policy => gate c.policies (View.through c.serve s.store) c.prober op s next
  | .noting name =>
    let reply := next s
    { reply with notes := noteOf context op name ++ reply.notes }

/-- What layers write down of an operation that reaches all of them. -/
def notesOf (layers : List Layer) : List Note :=
  if op.isCreateCluster then (layers.filterMap Layer.noteName?).map (⟨·, context⟩) else []

/-- What the policies make of an operation; one without a check passes. -/
def verdict (s : Store) : Except Failure Unit := (c.checked? op s).getD (.ok ())

/-- The layers that an operation reaches: all of them if it passes, else those in front of the first
policy layer. -/
def reached (s : Store) : List Layer :=
  match c.verdict op s with
  | .ok () => c.layers
  | .error _ => c.layers.takeWhile (· ≠ .policy)

/-- What a chain does with an operation, said of its layers as a whole. -/
structure Composed (s : State) : Prop where
  /-- The layers are put around the end one by one, beginning with the last. -/
  wrapped : c.handle context op s =
    c.layers.reverse.foldl (fun next layer => c.wrap context op layer next) (c.finish op) s
  /-- The noting layers that the operation reaches write it down, each once and in order. -/
  notes : (c.handle context op s).notes = notesOf context op (c.reached op s.store)
  /-- Noting layers change neither answers nor stores, and neither do further policy layers. -/
  merged : (c.handle context op s).Agrees (c.merged.handle context op s)
  /-- Where nothing is behind the layers, an operation that they let through has no handler. -/
  unserved : c.terminal = .empty → (.policy ∈ c.layers → c.verdict op s.store = .ok ()) →
    (c.handle context op s).answer = .error (.unhandled op.name)

/-! ## Serving -/

variable {c context op} {s : State} {layers : List Layer} {f : Failure}

theorem Reply.Agrees.symm {α : Type} {r r' : Reply α} (h : r.Agrees r') : r'.Agrees r :=
  ⟨h.answer.symm, h.store.symm, h.exchanges.symm⟩

theorem Reply.Agrees.trans {α : Type} {r r' r'' : Reply α} (h : r.Agrees r')
    (h' : r'.Agrees r'') : r.Agrees r'' :=
  ⟨h.answer.trans h'.answer, h.store.trans h'.store, h.exchanges.trans h'.exchanges⟩

theorem through_eq_foldr (c : Chain) (context : Context) (op : Operation) (layers : List Layer) :
    (fun s => c.through context op s layers) =
      layers.foldr (c.wrap context op) (c.finish op) := by
  induction layers with
  | nil => rfl
  | cons layer rest ih =>
    rw [List.foldr_cons, ← ih]
    cases layer <;> rfl

theorem handle_eq_foldl (c : Chain) (context : Context) (op : Operation) (s : State) :
    c.handle context op s =
      c.layers.reverse.foldl (fun next layer => c.wrap context op layer next) (c.finish op) s := by
  rw [List.foldl_reverse]
  exact congrFun (through_eq_foldr c context op c.layers) s

theorem notesOf_noting (context : Context) (op : Operation) (name : String) (rest : List Layer) :
    notesOf context op (.noting name :: rest) =
      noteOf context op name ++ notesOf context op rest := by
  unfold notesOf noteOf
  split <;> rfl

theorem notes_finish (c : Chain) (op : Operation) (s : State) : (c.finish op s).notes = [] := by
  unfold finish
  cases c.terminal <;> rfl

/-- An operation that passes the policy layers, if there are any, reaches the end and is noted by
all layers. -/
theorem through_of_passed (h : .policy ∈ layers → c.verdict op s.store = .ok ()) :
    (c.through context op s layers).Agrees (c.finish op s) ∧
      (c.through context op s layers).notes = notesOf context op layers := by
  induction layers generalizing s with
  | nil =>
    refine ⟨⟨rfl, rfl, rfl⟩, ?_⟩
    rw [through, notes_finish]
    simp [notesOf]
  | cons layer rest ih =>
    cases layer with
    | noting name =>
      obtain ⟨hagrees, hnotes⟩ := ih (s := s) fun hmem => h (List.mem_cons_of_mem _ hmem)
      refine ⟨⟨hagrees.answer, hagrees.store, hagrees.exchanges⟩, ?_⟩
      rw [notesOf_noting, ← hnotes]
      rfl
    | policy =>
      have hverdict := h List.mem_cons_self
      rw [through_policy, gate]
      cases hpolicy : op.policy c.policies with
      | none => exact ih fun _ => hverdict
      | some check =>
        simp only [verdict, checked?, hpolicy, Option.map, Option.getD] at hverdict
        simp only [hverdict]
        -- The check is counted in the metrics; the store, and with it the verdict, stay.
        let counted : State :=
          { s with metrics := s.metrics.addAnswer op.name (.ok ()) checkSeconds }
        obtain ⟨hagrees, hnotes⟩ := ih (s := counted) fun _ => by
          simp only [counted, verdict, checked?, hpolicy, Option.map, Option.getD, hverdict]
        have hend : (c.finish op counted).Agrees (c.finish op s) := finish_agrees rfl
        have hfinish := hagrees.trans hend
        exact ⟨⟨hfinish.answer, hfinish.store, hfinish.exchanges⟩, hnotes⟩

/-- An operation that does not pass ends at the first policy layer. -/
theorem through_of_stopped (context : Context) (hmem : .policy ∈ layers)
    (h : c.verdict op s.store = .error f) :
    let reply := c.through context op s layers
    reply.answer = .error f ∧ reply.state.store = s.store ∧ reply.exchanges = [] ∧
      reply.notes = notesOf context op (layers.takeWhile (· ≠ .policy)) := by
  induction layers with
  | nil => cases hmem
  | cons layer rest ih =>
    cases layer with
    | noting name =>
      have hrest : .policy ∈ rest := by simpa using hmem
      obtain ⟨hanswer, hstore, hexchanges, hnotes⟩ := ih hrest
      refine ⟨hanswer, hstore, hexchanges, ?_⟩
      rw [List.takeWhile_cons_of_pos (by simp), notesOf_noting, ← hnotes]
      rfl
    | policy =>
      rw [through_policy, gate]
      cases hpolicy : op.policy c.policies with
      | none =>
        simp only [verdict, checked?, hpolicy, Option.map, Option.getD] at h
        cases h
      | some check =>
        simp only [verdict, checked?, hpolicy, Option.map, Option.getD] at h
        simp only [h]
        refine ⟨trivial, trivial, trivial, ?_⟩
        rw [List.takeWhile_cons_of_neg (by simp)]
        simp [notesOf]

/-- Noting layers, and policy layers after the first, leave answer and store as they are. -/
theorem handle_merged (c : Chain) (context : Context) (op : Operation) (s : State) :
    (c.handle context op s).Agrees (c.merged.handle context op s) := by
  -- Both chains have one end and come to one verdict.
  have hend : c.merged.finish op s = c.finish op s := rfl
  have hverdict : c.merged.verdict op s.store = c.verdict op s.store := rfl
  by_cases hmem : .policy ∈ c.layers
  · have hlayers : c.merged.layers = [.policy] := if_pos hmem
    cases h : c.verdict op s.store with
    | ok _ =>
      have hmerged : (c.merged.handle context op s).Agrees (c.merged.finish op s) :=
        (through_of_passed fun _ => hverdict.trans h).1
      rw [hend] at hmerged
      exact (through_of_passed fun _ => h).1.trans hmerged.symm
    | error f =>
      have hfirst : .policy ∈ c.merged.layers := by
        rw [hlayers]
        exact List.mem_cons_self
      obtain ⟨hanswer, hstore, hexchanges, -⟩ := through_of_stopped context hmem h
      obtain ⟨hanswer', hstore', hexchanges', -⟩ :=
        through_of_stopped context hfirst (hverdict.trans h)
      exact ⟨hanswer.trans hanswer'.symm, hstore.trans hstore'.symm,
        hexchanges.trans hexchanges'.symm⟩
  · have hlayers : c.merged.layers = [] := if_neg hmem
    have hmerged : c.merged.handle context op s = c.finish op s := by
      rw [handle, hlayers, through, hend]
    rw [hmerged]
    exact (through_of_passed fun hin => absurd hin hmem).1

theorem notes_handle (c : Chain) (context : Context) (op : Operation) (s : State) :
    (c.handle context op s).notes = notesOf context op (c.reached op s.store) := by
  unfold reached
  cases h : c.verdict op s.store with
  | ok _ => exact (through_of_passed fun _ => h).2
  | error f =>
    by_cases hmem : .policy ∈ c.layers
    · exact (through_of_stopped context hmem h).2.2.2
    · have hall : c.layers.takeWhile (· ≠ .policy) = c.layers := by
        refine List.takeWhile_eq_self_iff.2 fun layer hlayer => decide_eq_true ?_
        rintro rfl
        exact hmem hlayer
      simp only [hall]
      exact (through_of_passed fun hin => absurd hin hmem).2

/-- Chains do what they are declared to do, whatever their layers and their end are. A chain has the
names of its layers and one for its end. Of an operation it notes, answers and stores what its
layers as a whole stand for (`Composed`). -/
theorem layers_compose (c : Chain) :
    c.names = c.layers.map Layer.name ++ ["terminal"] ∧
    (∀ declared : List String,
      { c with layers := declared.map Layer.ofName }.names = declared ++ ["terminal"]) ∧
    ∀ (context : Context) (op : Operation) (s : State), c.Composed context op s := by
  refine ⟨rfl, c.names_ofName, fun context op s => ?_⟩
  refine ⟨handle_eq_foldl c context op s, notes_handle c context op s,
    handle_merged c context op s, fun hempty hpassed => ?_⟩
  have hanswer : (c.handle context op s).answer = (c.finish op s).answer :=
    (through_of_passed hpassed).1.answer
  rw [hanswer, finish, hempty]

end Chain

/-- Two noting layers, each in front of a policy layer. -/
def Sample.layered : Chain :=
  { Chain.standard .default (fun _ => .accepted) with
    layers := [.noting "first", .policy, .noting "second", .policy] }

/-- A cluster of two nodes is rejected behind the first noting layer, one of three nodes is stored
behind the second one. -/
theorem layers_compose_of_sample :
    let c := Sample.layered
    let two : Operation := .createCluster (Sample.small 2 none)
    let three : Operation := .createCluster (Sample.small 3 none)
    c.names = ["first", "policy", "second", "policy", "terminal"] ∧
      (c.handle {} two Sample.platform).notes = [⟨"first", {}⟩] ∧
      (c.handle {} three Sample.platform).notes = [⟨"first", {}⟩, ⟨"second", {}⟩] ∧
      (c.handle {} three Sample.platform).answer =
        (c.merged.handle {} three Sample.platform).answer ∧
      (c.handle {} three Sample.platform).answer = .ok (Sample.small 3 none) := by
  intro c two three
  obtain ⟨hnames, -, hcomposed⟩ := Chain.layers_compose c
  have htwo : c.reached two Sample.platform.store = [.noting "first"] := by decide +kernel
  have hthree : c.reached three Sample.platform.store = c.layers := by decide +kernel
  refine ⟨hnames, ?_, ?_, (hcomposed {} three Sample.platform).merged.answer, by decide +kernel⟩
  · rw [(hcomposed {} two Sample.platform).notes, htwo]
    rfl
  · rw [(hcomposed {} three Sample.platform).notes, hthree]
    rfl

end ClusterAdmission
