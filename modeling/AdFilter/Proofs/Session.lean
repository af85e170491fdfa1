import AdFilter.Proofs.Cache
import AdFilter.Session
import Mathlib.Data.List.Forall2

/-! Engines that remember their answers give the ones they would find anew, however they take turns. -/

namespace AdFilter

/-- An empty address has no host. -/
theorem Url.lowerHost?_empty : Url.lowerHost? "" = none := by decide

namespace Request

/-- A request that has the key. -/
def ofKey (key : RequestKey) : Request := ⟨key.1, some key.2.1, key.2.2⟩

/-- No document has the host that an empty document has, which is none. -/
theorem documentHost?_eq (request : Request) :
    request.documentHost? = Url.lowerHost? (request.document.getD "") := by
  unfold documentHost?
  -- Without a document there is no host, as with an empty address.
  cases request.document with
  | none => exact Url.lowerHost?_empty.symm
  | some document => rfl

/-- A request asks the same question as any other one with its key. -/
theorem query_ofKey (request : Request) : (ofKey request.key).query = request.query := by
  -- The key keeps the address, the document and the types, and the rest is derived from those.
  have host : (ofKey request.key).documentHost? = request.documentHost? := by
    rw [documentHost?_eq request]
    rfl
  -- The party is decided by the address and by the host of the document.
  have party : (ofKey request.key).isThirdParty = request.isThirdParty := by
    unfold isThirdParty
    rw [host]
    rfl
  simp only [query, host, party]
  rfl

end Request

/-- What becomes of a request is told by its key. -/
theorem RuleSet.judge_ofKey (set : RuleSet) (request : Request) :
    set.judge (.ofKey request.key) = set.judge request := by
  -- The key has all that the tables are asked with.
  have same := request.query_ofKey
  simp only [judge, exception?, blocking?, same]
  rfl

/-- What an engine is made from. -/
structure Plan where
  rules : List Rule
  cacheSize : Nat

namespace Plan

/-- The engine that has answered nothing yet. -/
def engine (plan : Plan) : Engine := .ofRules plan.rules plan.cacheSize

/-- What an engine with no room for answers says to a request when that is all it is asked. -/
def verdict (plan : Plan) (request : Request) : Verdict :=
  ((Engine.ofRules plan.rules 0).answer request).1

/-- With no room for answers, each request is judged. -/
theorem verdict_eq (plan : Plan) (request : Request) :
    plan.verdict request = (RuleSet.ofList plan.rules).judge request := by
  unfold verdict Engine.answer
  cases nowhere : request.url.isEmpty with
  -- Without an address there is nothing to judge.
  | true => simp [RuleSet.judge, nowhere]
  -- An empty cache yields nothing, so the request is judged on the spot.
  | false => simp [Engine.ofRules, Cache.find, Cache.empty]

/-- Requests with one key get one answer. -/
theorem verdict_eq_of_key {a b : Request} (same : a.key = b.key) (plan : Plan) :
    plan.verdict a = plan.verdict b := by
  -- The verdict is that of the request that is made of the key.
  rw [verdict_eq, verdict_eq, ← RuleSet.judge_ofKey _ a, ← RuleSet.judge_ofKey _ b, same]

end Plan

namespace Engine

/-- The engine is one that was made by the plan, whatever it was asked since. -/
structure Serves (engine : Engine) (plan : Plan) : Prop where
  rules : engine.rules = .ofList plan.rules
  capacity : engine.answers.capacity = plan.cacheSize
  tidy : engine.answers.Tidy
  remembers : engine.answers.Remembers fun key => engine.rules.judge (.ofKey key)

/-- A new engine serves its plan. -/
theorem serves_engine (plan : Plan) : plan.engine.Serves plan where
  rules := rfl
  -- The engine is new, so its memory is empty.
  capacity := rfl
  tidy := Cache.tidy_empty _
  remembers := Cache.remembers_empty _ _

/-- An engine remembers no more answers than there is room for. -/
theorem Serves.remembered_le {engine : Engine} {plan : Plan} (serves : engine.Serves plan) :
    engine.remembered ≤ plan.cacheSize :=
  serves.capacity ▸ serves.tidy.bounded

/-- An engine that forgets its answers serves its plan as before. -/
theorem Serves.forget {engine : Engine} {plan : Plan} (serves : engine.Serves plan) :
    engine.forget.Serves plan where
  rules := serves.rules
  capacity := serves.capacity
  -- Only the memory is made new, and it is as large as before.
  tidy := Cache.tidy_empty _
  remembers := Cache.remembers_empty _ _

/-- An engine answers from memory what it would find anew, and serves its plan as before. -/
theorem Serves.answer {engine : Engine} {plan : Plan} (serves : engine.Serves plan)
    (request : Request) :
    (engine.answer request).1 = plan.verdict request ∧
      (engine.answer request).2.Serves plan := by
  -- An answer that is remembered was given for the same key, so it is the verdict of this request.
  rw [Plan.verdict_eq, ← serves.rules]
  unfold Engine.answer
  cases nowhere : request.url.isEmpty with
  | true => exact ⟨by simp [RuleSet.judge, nowhere], serves⟩
  | false =>
    obtain ⟨yields, entries, capacity⟩ := Cache.find_spec engine.answers request.key
    have tidy := Cache.tidy_find serves.tidy request.key
    -- Looking for an answer leaves all entries as they are.
    have remembers : (engine.answers.find request.key).2.Remembers fun key =>
        engine.rules.judge (.ofKey key) := by
      intro key value
      rw [entries]
      exact serves.remembers key value
    simp only [Bool.false_eq_true, if_false]
    split
    · -- What is in memory is the verdict on the key.
      rename_i verdict answers found
      simp only [found] at yields entries capacity tidy remembers
      refine ⟨?_, serves.rules, capacity.trans serves.capacity, tidy, remembers⟩
      exact (serves.remembers request.key verdict yields.symm).trans (RuleSet.judge_ofKey ..)
    · -- The verdict is found anew, and kept for the key.
      rename_i answers found
      simp only [found] at entries capacity tidy remembers
      obtain ⟨kept, room, _⟩ := Cache.insert_spec tidy request.key (engine.rules.judge request)
      refine ⟨rfl, serves.rules, room.trans (capacity.trans serves.capacity), kept, ?_⟩
      rw [← RuleSet.judge_ofKey engine.rules request]
      exact Cache.remembers_insert tidy remembers request.key

end Engine

namespace Session

/-- What is done in a session; a handle stands for an engine that is held, none for the current one. -/
inductive Step
  | ask (handle : Option Nat) (request : Request)
  | forget (handle : Option Nat)
  | hold
  | swap (plan : Plan)

/-- One step, with the answer to what is asked of an engine that is there. -/
def step (session : Session) : Step → Option Verdict × Session
  | .ask handle request =>
    match session.answer? handle request with
    | some (verdict, session) => (some verdict, session)
    | none => (none, session)
  | .forget handle => (none, (session.forget? handle).getD session)
  | .hold => (none, session.hold)
  | .swap plan => (none, session.swap plan.engine)

/-- All answers of a run, and the session after it. -/
def run (session : Session) : List Step → List (Option Verdict) × Session
  | [] => ([], session)
  | next :: rest =>
    let (answer, session) := session.step next
    let (answers, session) := session.run rest
    (answer :: answers, session)

/-- A session without any memory: what its engines are made from. -/
structure Roster where
  current : Plan
  held : List Plan

namespace Roster

/-- The plan of the engine with a handle, or of the current one. -/
def plan? (roster : Roster) : Option Nat → Option Plan
  | none => some roster.current
  | some handle => roster.held[handle]?

/-- One step, where each request is answered as if it were the only one. -/
def step (roster : Roster) : Step → Option Verdict × Roster
  | .ask handle request => ((roster.plan? handle).map (·.verdict request), roster)
  | .forget _ => (none, roster)
  | .hold => (none, { roster with held := roster.held ++ [roster.current] })
  | .swap plan => (none, { roster with current := plan })

/-- All answers of a run, and the roster after it. -/
def run (roster : Roster) : List Step → List (Option Verdict) × Roster
  | [] => ([], roster)
  | next :: rest =>
    let (answer, roster) := roster.step next
    let (answers, roster) := roster.run rest
    (answer :: answers, roster)

end Roster

/-- The engines serve the plans they were built from, and the handles stand for the same plans. -/
structure Follows (session : Session) (built : List Plan) (roster : Roster) : Prop where
  size : session.engines.size = built.length
  serves : ∀ (place : Nat) (engine : Engine) (plan : Plan),
    session.engines[place]? = some engine → built[place]? = some plan → engine.Serves plan
  current : built[session.current]? = some roster.current
  held : List.Forall₂ (fun (place : Nat) plan => built[place]? = some plan)
    session.held roster.held

/-- A handle stands for an engine and for the plan that the engine serves, or for neither. -/
theorem Follows.look {session : Session} {built : List Plan} {roster : Roster}
    (follows : session.Follows built roster) (handle : Option Nat) :
    (session.place? handle = none ∧ roster.plan? handle = none) ∨
      ∃ (place : Nat) (engine : Engine) (plan : Plan), session.place? handle = some place ∧
        roster.plan? handle = some plan ∧ session.engines[place]? = some engine ∧
        built[place]? = some plan ∧ engine.Serves plan := by
  -- A place that has a plan has an engine too, since there are as many of both.
  have filled {place : Nat} {plan : Plan} (planned : built[place]? = some plan) :
      ∃ engine, session.engines[place]? = some engine ∧ engine.Serves plan := by
    obtain ⟨inside, _⟩ := List.getElem?_eq_some_iff.mp planned
    rw [← follows.size] at inside
    exact ⟨_, Array.getElem?_eq_getElem inside,
      follows.serves place _ plan (Array.getElem?_eq_getElem inside) planned⟩
  cases handle with
  | none =>
    -- The current engine has a place of its own.
    obtain ⟨engine, found, serves⟩ := filled follows.current
    exact Or.inr ⟨_, engine, _, rfl, rfl, found, follows.current, serves⟩
  | some handle =>
    have long := follows.held.length_eq
    simp only [place?, Roster.plan?]
    -- A handle that was given out stands for the same place on both sides, any other for none.
    by_cases inside : handle < session.held.length
    · have planned := follows.held.get inside (long ▸ inside)
      simp only [List.get_eq_getElem] at planned
      obtain ⟨engine, found, serves⟩ := filled planned
      exact Or.inr ⟨_, engine, _, List.getElem?_eq_getElem inside,
        List.getElem?_eq_getElem (long ▸ inside), found, planned, serves⟩
    · simp only [List.getElem?_eq_none_iff]
      omega

/-- An engine may be exchanged for one that serves the same plan. -/
theorem Follows.put {session : Session} {built : List Plan} {roster : Roster}
    (follows : session.Follows built roster) {handle : Option Nat} {place : Nat} {plan : Plan}
    {engine : Engine} (stands : session.place? handle = some place)
    (planned : built[place]? = some plan) (serves : engine.Serves plan) :
    (session.put handle engine).Follows built roster := by
  simp only [Session.put, stands]
  refine ⟨by simpa using follows.size, fun other found served here there => ?_,
    follows.current, follows.held⟩
  simp only [Array.getElem?_setIfInBounds] at here
  split at here
  · -- The place itself has the new engine.
    rename_i same
    subst same
    split at here
    · cases here
      cases planned.symm.trans there
      exact serves
    · cases here
  · -- Every other place keeps its engine.
    exact follows.serves other found served here there

/-- One step answers as the roster does, and leads to a session that follows the roster. -/
theorem Follows.step {session : Session} {built : List Plan} {roster : Roster}
    (follows : session.Follows built roster) (next : Step) :
    (session.step next).1 = (roster.step next).1 ∧
      ∃ built, (session.step next).2.Follows built (roster.step next).2 := by
  -- Questions and clearing change one engine, holding and swapping change the handles.
  cases next with
  | ask handle request =>
    rcases follows.look handle with
      ⟨nowhere, unknown⟩ | ⟨place, engine, plan, stands, known, found, planned, serves⟩
    · -- No engine is there to be asked, and no plan either.
      simp only [Session.step, answer?, engine?, nowhere, Roster.step, unknown]
      exact ⟨rfl, built, follows⟩
    · -- The engine that is there answers for its plan and goes back to its place.
      obtain ⟨right, serves⟩ := serves.answer request
      simp only [Session.step, answer?, engine?, stands, Option.bind_some, found, Roster.step, known,
        Option.map_some, right]
      exact ⟨trivial, built, follows.put stands planned serves⟩
  | forget handle =>
    rcases follows.look handle with
      ⟨nowhere, _⟩ | ⟨place, engine, plan, stands, _, found, planned, serves⟩
    · simp only [Session.step, forget?, engine?, nowhere, Roster.step]
      exact ⟨trivial, built, follows⟩
    · simp only [Session.step, forget?, engine?, stands, Option.bind_some, found, Roster.step]
      -- Only what the engine remembers is gone.
      exact ⟨trivial, built, follows.put stands planned serves.forget⟩
  | hold =>
    -- The new handle stands for the place of the current engine, and so for the current plan.
    refine ⟨rfl, built, follows.size, follows.serves, follows.current, ?_⟩
    exact List.rel_append follows.held (.cons follows.current .nil)
  | swap plan =>
    -- The new plan goes behind the others, so every place keeps the plan it has.
    have kept {place : Nat} {other : Plan} (planned : built[place]? = some other) :
        (built ++ [plan])[place]? = some other := by
      obtain ⟨inside, _⟩ := List.getElem?_eq_some_iff.mp planned
      rwa [List.getElem?_append_left inside]
    refine ⟨rfl, built ++ [plan], ?_, fun place engine served here there => ?_, ?_,
      follows.held.imp fun _ _ => kept⟩
    · simpa [Session.step, swap] using follows.size
    · simp only [Session.step, swap, Array.getElem?_push] at here
      split at here
      · rename_i last
        cases here
        -- The place at the end is that of the new engine.
        rw [last, follows.size, List.getElem?_concat_length] at there
        cases there
        exact Engine.serves_engine plan
      · -- Any place before it has what it had.
        obtain ⟨inside, _⟩ := Array.getElem?_eq_some_iff.mp here
        rw [List.getElem?_append_left (follows.size ▸ inside)] at there
        exact follows.serves place engine served here there
    · simp [Session.step, swap, Roster.step, follows.size]

/-- A run answers as the roster does, and leads to a session that follows the roster. -/
theorem Follows.run {session : Session} {built : List Plan} {roster : Roster}
    (follows : session.Follows built roster) (steps : List Step) :
    (session.run steps).1 = (roster.run steps).1 ∧
      ∃ built, (session.run steps).2.Follows built (roster.run steps).2 := by
  -- The induction is on the steps, and the plans built so far change on the way.
  induction steps generalizing session built roster with
  | nil => exact ⟨rfl, built, follows⟩
  | cons next rest ih =>
    -- The first step is answered rightly, and the rest of the run starts from where it leads.
    obtain ⟨answered, built, follows⟩ := follows.step next
    obtain ⟨answers, after⟩ := ih follows
    exact ⟨by simp only [Session.run, Roster.run, answered, answers], after⟩

/-- A session that starts with one engine follows the roster with its plan alone. -/
theorem follows_start (plan : Plan) : (start plan.engine).Follows [plan] ⟨plan, []⟩ where
  size := rfl
  serves := by
    intro place engine served here there
    -- There is one engine, and it has answered nothing yet.
    cases place with
    | zero =>
      simp [start] at here there
      subst here there
      exact Engine.serves_engine plan
    | succ place => simp at there
  current := rfl
  held := .nil

/--
Whatever is done in a session, each answer is what an engine without memory says to that request alone.

No engine that is current or held remembers more than its plan has room for, and a request without
a document shares its key, and rightly its answer, with one from an empty document.
-/
theorem run_transparent (plan : Plan) (steps : List Step) :
    ((start plan.engine).run steps).1 = (Roster.run ⟨plan, []⟩ steps).1 ∧
      (∀ handle, Option.Rel (fun engine plan => engine.remembered ≤ plan.cacheSize)
        (((start plan.engine).run steps).2.engine? handle)
        ((Roster.run ⟨plan, []⟩ steps).2.plan? handle)) ∧
      ∀ (url : String) (types : TypeSet) (other : Plan),
        Request.key ⟨url, none, types⟩ = Request.key ⟨url, some "", types⟩ ∧
          other.verdict ⟨url, none, types⟩ = other.verdict ⟨url, some "", types⟩ := by
  -- The session follows a roster from its start on, and so does the session after the run.
  obtain ⟨answers, built, follows⟩ := (follows_start plan).run steps
  refine ⟨answers, fun handle => ?_, fun url types other => ⟨rfl, other.verdict_eq_of_key rfl⟩⟩
  rcases follows.look handle with
    ⟨nowhere, unknown⟩ | ⟨place, engine, _, stands, known, found, _, serves⟩
  · simp only [engine?, nowhere, unknown]
    exact .none
  · simp only [engine?, stands, Option.bind_some, found, known]
    -- An engine that serves its plan keeps the bound of the plan.
    exact .some serves.remembered_le

end Session

end AdFilter
