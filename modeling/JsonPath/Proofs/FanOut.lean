import JsonPath.Listener
import Mathlib.Logic.Function.Iterate

/-!
# Passing findings on

A listener that passes findings on to others makes no difference to them: what becomes of each is
what becomes of it if it is called itself. On the way a call is packed up as a `Diagnostic` and
handed to the operation for its kind, once for every fan-out that it goes through.

An `Audience` is a tree of fan-outs with members at its leaves; the same member may stand at several
of them. `Audience.places` are its leaves in order.

Results:
1. `on_audience`: a call of an audience is a call of the member at each place, one after the other.
   The members may share their state.
2. `fan_out_transparent`: members with states of their own, over any sequence of calls and of takes
   from the collectors among them.
-/

namespace JsonPath

/-- If members act one after the other, each on its own state, then a member acts on its state as
often as it is among them. -/
theorem foldl_update {ι : Type} [DecidableEq ι] {S : ι → Type} (f : ∀ i, S i → S i) (is : List ι)
    (s : ∀ i, S i) (m : ι) :
    is.foldl (fun s i => Function.update s i (f i (s i))) s m = (f m)^[is.count m] (s m) := by
  induction is generalizing s with
  | nil => rfl
  | cons i is ih =>
    rw [List.foldl_cons, ih]
    by_cases same : i = m
    · subst same
      rw [Function.update_self, List.count_cons_self, Function.iterate_succ_apply]
    · rw [Function.update_of_ne (Ne.symm same), List.count_cons_of_ne same]

/-! ## Calls -/

/-- A call of one of the operations of a listener. -/
inductive Call where
  | unknownFunction (name : String)
  | functionIsNoTest (name : String)
  | functionIsNotComparable (name : String)
  | badArguments (name : String) (expected : List ExpressionType) (actual : List CoercedArgument)
  | invalidTest (text : String)
  | malformed (line column : Nat) (message : String) (offending : Option String)

namespace Call

/-- The call made of a listener. -/
def on (l : Listener σ) : Call → σ → σ
  | .unknownFunction name => l.unknownFunction name
  | .functionIsNoTest name => l.functionIsNoTest name
  | .functionIsNotComparable name => l.functionIsNotComparable name
  | .badArguments name expected actual => l.badArguments name expected actual
  | .invalidTest text => l.invalidTest text
  | .malformed line column message offending => l.malformed line column message offending

/-- The call as a finding. -/
def packed : Call → Diagnostic
  | .unknownFunction name => .unknownFunction name
  | .functionIsNoTest name => .functionIsNoTest name
  | .functionIsNotComparable name => .functionIsNotComparable name
  | .badArguments name expected actual => .badArguments name expected actual
  | .invalidTest text => .invalidTest text
  | .malformed line column message offending => .malformed line column message offending

variable (c : Call)

/-- Nothing of a call is lost on the way. -/
theorem dispatch_packed (l : Listener σ) : c.packed.dispatch l = c.on l := by
  cases c <;> rfl

theorem on_fanOut (ls : List (Listener σ)) (s : σ) :
    c.on (.fanOut ls) s = ls.foldl (fun s l => c.on l s) s := by
  have handed : c.on (.fanOut ls) s = ls.foldl (fun s l => c.packed.dispatch l s) s := by
    cases c <;> rfl
  simpa only [dispatch_packed] using handed

theorem on_onPart (change : (τ → τ) → σ → σ) (l : Listener τ) :
    c.on (l.onPart change) = change (c.on l) := by
  cases c <;> rfl

end Call

/-! ## Audiences -/

/-- A member that is called, or a fan-out over audiences. -/
inductive Audience (ι : Type) where
  | member (i : ι)
  | fanOut (audiences : List (Audience ι))

section

variable {ι σ : Type} (base : ι → Listener σ)

mutual

/-- The listener that an audience is, if `base` says what its members are. -/
def Audience.listener : Audience ι → Listener σ
  | .member i => base i
  | .fanOut audiences => .fanOut (listenersOf audiences)
termination_by structural a => a

def listenersOf : List (Audience ι) → List (Listener σ)
  | [] => []
  | a :: as => a.listener :: listenersOf as
termination_by structural as => as

end

mutual

/-- The members that an audience has, one for each place in its lists. -/
def Audience.places : Audience ι → List ι
  | .member i => [i]
  | .fanOut audiences => placesOf audiences
termination_by structural a => a

def placesOf : List (Audience ι) → List ι
  | [] => []
  | a :: as => a.places ++ placesOf as
termination_by structural as => as

end

mutual

/-- A call of an audience is a call of the member at each of its places. -/
theorem on_audience (c : Call) : ∀ (a : Audience ι) (s : σ),
    c.on (a.listener base) s = a.places.foldl (fun s i => c.on (base i) s) s
  | .member _, _ => rfl
  | .fanOut audiences, s => (c.on_fanOut _ s).trans (on_audiences c audiences s)
termination_by structural a => a

theorem on_audiences (c : Call) : ∀ (as : List (Audience ι)) (s : σ),
    (listenersOf base as).foldl (fun s l => c.on l s) s =
      (placesOf as).foldl (fun s i => c.on (base i) s) s
  | [], _ => rfl
  | a :: as, s => by
    rw [listenersOf, placesOf, List.foldl_cons, List.foldl_append, on_audience c a s]
    exact on_audiences c as _
termination_by structural as => as

end

end

/-! ## Members with states of their own -/

/-- A member of an audience: a collector, the log, or a listener of another kind. -/
inductive Member (κ : Type) where
  | collector (number : Nat)
  | logging
  | other (key : κ)
deriving DecidableEq

section

variable {κ : Type} {τ : κ → Type}

/-- The states of a member, where those of the other listeners are given by `τ`. -/
abbrev Member.State (τ : κ → Type) : Member κ → Type
  | .collector _ => List Diagnostic
  | .logging => List LogLine
  | .other key => τ key

/-- What a member does with its state. -/
def Member.listener (others : ∀ key, Listener (τ key)) : ∀ m : Member κ, Listener (m.State τ)
  | .collector _ => .collector
  | .logging => .logging
  | .other key => others key

/-- The states of all members. -/
abbrev States (τ : κ → Type) : Type := ∀ m : Member κ, m.State τ

/-- Something that is done with an audience or with one of its collectors. -/
inductive Occurrence where
  | call (c : Call)
  /-- The findings are taken from the collector with this number. -/
  | take (number : Nat)

variable [DecidableEq κ] (others : ∀ key, Listener (τ key))

/-- A member that acts on its own state among all. -/
def Member.among (m : Member κ) : Listener (States τ) :=
  (m.listener others).onPart fun f s => Function.update s m (f (s m))

/-- What becomes of the states of all members if the calls are made of an audience. -/
def Occurrence.fanned (a : Audience (Member κ)) (s : States τ) : Occurrence → States τ
  | .call c => c.on (a.listener (Member.among others)) s
  | .take number =>
    Function.update s (.collector number) (Listener.takeKept (s (.collector number))).2

/-- What becomes of the state of one member if the calls are made of the member itself, each of them
`times` times in a row. -/
def Occurrence.direct (times : Nat) : ∀ m : Member κ, m.State τ → Occurrence → m.State τ
  | m, s, .call c => (c.on (m.listener others))^[times] s
  | .collector n, kept, .take number => if n = number then (Listener.takeKept kept).2 else kept
  | .logging, lines, .take _ => lines
  | .other _, s, .take _ => s

/-- The states of all members after calls of an audience and takes. -/
def fannedRun (a : Audience (Member κ)) (start : States τ) (history : List Occurrence) :
    States τ :=
  history.foldl (Occurrence.fanned others a) start

/-- The state of one member after calls of its own and takes. -/
def directRun (times : Nat) (m : Member κ) (start : m.State τ) (history : List Occurrence) :
    m.State τ :=
  history.foldl (Occurrence.direct others times m) start

theorem fanned_call (a : Audience (Member κ)) (s : States τ) (c : Call) (m : Member κ) :
    (Occurrence.call c).fanned others a s m =
      (Occurrence.call c).direct others (a.places.count m) m (s m) := by
  have each : (fun (s : States τ) (i : Member κ) => c.on (Member.among others i) s) =
      fun s i => Function.update s i (c.on (i.listener others) (s i)) := by
    funext s i
    exact congrFun (c.on_onPart _ _) s
  rw [Occurrence.fanned, on_audience, each, Occurrence.direct]
  exact foldl_update (fun i => c.on (i.listener others)) a.places s m

/-- A take is not passed on, and only the one collector notices it. -/
theorem fanned_take (a : Audience (Member κ)) (s : States τ) (number times : Nat) (m : Member κ) :
    (Occurrence.take number).fanned others a s m =
      (Occurrence.take number).direct others times m (s m) := by
  cases m with
  | collector n =>
    by_cases same : n = number
    · subst same
      rw [Occurrence.direct, if_pos rfl]
      exact Function.update_self ..
    · rw [Occurrence.direct, if_neg same]
      exact Function.update_of_ne (fun is => same (Member.collector.inj is)) ..
  | logging =>
    have different : (.logging : Member κ) ≠ .collector number := nofun
    exact Function.update_of_ne different ..
  | other key =>
    have different : .other key ≠ (.collector number : Member κ) := nofun
    exact Function.update_of_ne different ..

/-- What one occurrence does to a member. -/
theorem fanned_apply (a : Audience (Member κ)) (s : States τ) (o : Occurrence) (m : Member κ) :
    o.fanned others a s m = o.direct others (a.places.count m) m (s m) := by
  cases o with
  | call c => exact fanned_call others a s c m
  | take number => exact fanned_take others a s number _ m

theorem fannedRun_apply (a : Audience (Member κ)) (start : States τ) (history : List Occurrence)
    (m : Member κ) : fannedRun others a start history m =
      directRun others (a.places.count m) m (start m) history := by
  induction history generalizing start with
  | nil => rfl
  | cons o later ih =>
    have rest := ih (o.fanned others a start)
    rwa [fanned_apply] at rest

/-- Passing on is transparent. Whatever the fan-outs of an audience are and whatever its members do
with a call, after any calls of the audience and any takes from its collectors each member is in the
state that it would be in if it had been called itself, once for each of its places. So what is
taken from a collector on the way is what would be taken from one that is called itself. -/
theorem fan_out_transparent (a : Audience (Member κ)) (start : States τ)
    (history : List Occurrence) :
    (∀ m, fannedRun others a start history m =
      directRun others (a.places.count m) m (start m) history) ∧
    ∀ number before later, history = before ++ .take number :: later →
      (Listener.takeKept (fannedRun others a start before (.collector number))).1 =
        (Listener.takeKept (directRun others (a.places.count (.collector number))
          (.collector number) (start (.collector number)) before)).1 :=
  ⟨fannedRun_apply others a start history, fun number before _ _ =>
    congrArg (fun kept => (Listener.takeKept kept).1)
      (fannedRun_apply others a start before (.collector number))⟩

end

/-- One collector stands at two places of which one is deep in the lists, and a listener has an
operation of its own. -/
theorem fan_out_transparent_nested :
    let a : Audience (Member Unit) := .fanOut [.member (.collector 0), .fanOut [.member .logging,
      .fanOut [], .fanOut [.member (.other ()), .member (.collector 0)]], .member (.collector 1)]
    let history : List Occurrence := [.call (.unknownFunction "f"), .take 1,
      .call (.malformed 1 2 "unexpected token" (some "]"))]
    let start : States fun _ : Unit => List String
      | .collector _ | .logging | .other _ => []
    let after := fannedRun (fun _ => .unknownNames) a start history
    after (.collector 0) = [.unknownFunction "f", .unknownFunction "f",
        .malformed 1 2 "unexpected token" (some "]"),
        .malformed 1 2 "unexpected token" (some "]")] ∧
      after (.collector 1) = [.malformed 1 2 "unexpected token" (some "]")] ∧
      after (.other ()) = ["f"] ∧
      (Listener.takeKept (fannedRun (fun _ => .unknownNames) a start [.call (.unknownFunction "f")]
        (.collector 1))).1 = [.unknownFunction "f"] := by
  intro a history start after
  obtain ⟨states, taken⟩ := fan_out_transparent (fun _ => .unknownNames) a start history
  exact ⟨states (.collector 0), states (.collector 1), states (.other ()),
    taken 1 [.call (.unknownFunction "f")] _ rfl⟩

end JsonPath
