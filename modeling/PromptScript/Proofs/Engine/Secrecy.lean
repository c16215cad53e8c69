import PromptScript.Proofs.Backend.Acceptance
import PromptScript.Proofs.Engine.Completion
import PromptScript.Proofs.Engine.Placement

/-!
# Keys stay in headers

A key goes into the headers of requests and nowhere else.  So two runs in settings that differ in
their keys, but have keys for the same providers, do the same at every step: what they send differs
at most in the values of headers, and their states, results and texts do not differ at all.
-/

namespace PromptScript

/-- The same settings with other keys. -/
def Settings.withKeys (settings : Settings) (keys : String → Option String) : Settings :=
  { settings with apiKey := keys }

@[simp]
theorem Settings.withKeys_maxToolRounds (settings : Settings) (keys : String → Option String) :
    (settings.withKeys keys).maxToolRounds = settings.maxToolRounds := rfl

/-- Whether two requests differ at most in the values of their headers. -/
structure WireRequest.Alike (first second : WireRequest) : Prop where
  url : first.url = second.url
  body : first.body = second.body
  headers : first.headers.map Prod.fst = second.headers.map Prod.fst

/-- Whether two worlds differ at most in the headers of what was sent. -/
structure World.Alike (first second : World) : Prop where
  tree : first.tree = second.tree
  registry : first.registry = second.registry
  replies : first.replies = second.replies
  requests : List.Forall₂ WireRequest.Alike first.requests second.requests
  output : first.output = second.output
  diagnostics : first.diagnostics = second.diagnostics

/-- Whether two computations give the same in alike worlds. -/
def Agree {α : Type} (first second : α × World) : Prop :=
  ∃ value world other, first = (value, world) ∧ second = (value, other) ∧ world.Alike other

/-- Whether two computations give the same and leave the same state in alike worlds. -/
def AgreeWith {α σ : Type} (first second : α × σ × World) : Prop :=
  ∃ value state world other,
    first = (value, state, world) ∧ second = (value, state, other) ∧ world.Alike other

theorem AgreeWith.of_alike {α σ : Type} {first second : World} (value : α) (state : σ)
    (hworlds : first.Alike second) : AgreeWith (value, state, first) (value, state, second) :=
  ⟨value, state, first, second, rfl, rfl, hworlds⟩

namespace WireRequest

theorem Alike.refl (request : WireRequest) : request.Alike request :=
  ⟨rfl, rfl, rfl⟩

end WireRequest

namespace World

variable {first second : World}

theorem Alike.refl (world : World) : world.Alike world :=
  ⟨rfl, rfl, rfl, List.forall₂_same.mpr fun request _ => .refl request, rfl, rfl⟩

/-- Of alike worlds one is the other with other requests. -/
theorem Alike.eq (hworlds : first.Alike second) :
    second = { first with requests := second.requests } := by
  rcases first with ⟨tree, registry, replies, requests, output, diagnostics⟩
  rcases second with ⟨_, _, _, others, _, _⟩
  obtain ⟨rfl, rfl, rfl, -, rfl, rfl⟩ := hworlds
  rfl

/-- Alike requests get the same reply. -/
theorem Alike.send (hworlds : first.Alike second) (provider : String) {request other : WireRequest}
    (hrequests : request.Alike other) :
    Agree (first.send provider request) (second.send provider other) := by
  have hsent := List.rel_append hworlds.requests (.cons hrequests .nil)
  rw [hworlds.eq]
  unfold World.send
  cases first.replies with
  | nil => exact ⟨_, _, _, rfl, rfl, rfl, rfl, rfl, hsent, rfl, rfl⟩
  | cons reply rest => exact ⟨_, _, _, rfl, rfl, rfl, rfl, rfl, hsent, rfl, rfl⟩

theorem Alike.refreshFunctions (hworlds : first.Alike second) (settings : Settings)
    (keys others : String → Option String) :
    Agree (first.refreshFunctions (settings.withKeys keys))
      (second.refreshFunctions (settings.withKeys others)) := by
  rw [hworlds.eq]
  exact ⟨_, _, _, rfl, rfl, rfl, rfl, rfl, hworlds.requests, rfl, rfl⟩

theorem Alike.invoke (hworlds : first.Alike second) (settings : Settings)
    (keys others : String → Option String) (name : String) (arguments : Json) :
    Agree (first.invoke (settings.withKeys keys) name arguments)
      (second.invoke (settings.withKeys others) name arguments) := by
  rw [hworlds.eq]
  exact ⟨_, _, _, rfl, rfl, rfl, rfl, rfl, hworlds.requests, rfl, rfl⟩

end World

namespace Backend

/-- A request is the body with an address and headers around it, and only the values of the headers
depend on the key. -/
theorem exists_headers (backend : Backend) (conversation : Conversation)
    (tools : List ToolDeclaration) (params : ModelParams) :
    ∃ (url : String) (headers : String → List (String × String)),
      (∀ key, backend.encode conversation tools { params with apiKey := some key } =
        (backend.requestBody conversation tools params).map (⟨url, headers key, ·⟩)) ∧
      ∀ key other, (headers key).map Prod.fst = (headers other).map Prod.fst := by
  have hread : ∀ key provider, apiKey { params with apiKey := some key } provider = pure key :=
    fun _ _ => rfl
  cases backend
  all_goals
    simp only [encode, requestBody, OpenAi.encode, Anthropic.encode, Google.encode, Mistral.encode,
      endpoint, hread, bind_pure_comp, map_pure]
    exact ⟨_, fun key => _, fun key => rfl, fun key other => rfl⟩

/-- With two keys a backend fails alike or writes alike requests. -/
theorem encode_alike (backend : Backend) (conversation : Conversation)
    (tools : List ToolDeclaration) (params : ModelParams) (key other : String) :
    (∃ error, backend.encode conversation tools { params with apiKey := some key } = .error error ∧
        backend.encode conversation tools { params with apiKey := some other } = .error error) ∨
      ∃ request another,
        backend.encode conversation tools { params with apiKey := some key } = .ok request ∧
        backend.encode conversation tools { params with apiKey := some other } = .ok another ∧
        request.Alike another := by
  obtain ⟨url, headers, hencode, hnames⟩ := backend.exists_headers conversation tools params
  rw [hencode, hencode]
  cases backend.requestBody conversation tools params with
  | error error => exact .inl ⟨error, rfl, rfl⟩
  | ok body => exact .inr ⟨_, _, rfl, rfl, rfl, rfl, hnames key other⟩

end Backend

namespace Exchange

variable {settings : Settings} {keys others : String → Option String} {first second : World}

/-- The same plan with another key. -/
def Plan.withKey (plan : Plan) (key : String) : Plan :=
  { plan with params := { plan.params with apiKey := some key } }

/-- Plans of settings with keys for the same providers fail alike or differ at most in the key. -/
theorem plan_alike (settings : Settings) {model : Model} (state : ExecutionState)
    (registry : FunctionRegistry)
    (hkeys : (keys model.provider).isSome = (others model.provider).isSome) :
    (∃ error, Exchange.plan (settings.withKeys keys) state registry model = .error error ∧
        Exchange.plan (settings.withKeys others) state registry model = .error error) ∨
      ∃ (plan : Plan) (key other : String),
        Exchange.plan (settings.withKeys keys) state registry model = .ok (plan.withKey key) ∧
        Exchange.plan (settings.withKeys others) state registry model =
          .ok (plan.withKey other) := by
  simp only [Exchange.plan, params, Settings.withKeys]
  cases maxTokens state.bindings with
  | error error => exact .inl ⟨error, rfl, rfl⟩
  | ok limit =>
      cases Backend.ofProvider model.provider with
      | error error => exact .inl ⟨error, rfl, rfl⟩
      | ok backend =>
          cases hkey : keys model.provider with
          | none =>
              have hother : others model.provider = none := by simpa [hkey] using hkeys
              rw [hother]
              exact .inl ⟨_, rfl, rfl⟩
          | some key =>
              obtain ⟨other, hother⟩ : ∃ other, others model.provider = some other := by
                simpa [hkey, Option.isSome_iff_exists] using hkeys
              rw [hother]
              exact .inr ⟨⟨model, backend, registry.declarations,
                ⟨model.wireName, none, settings.baseUrls.lookup model.provider,
                  (state.bindings.get? temperatureName).bind Json.asFloat?, limit⟩⟩,
                key, other, rfl, rfl⟩

/-- A turn does the same with any key. -/
theorem turn_agree (plan : Plan) (key other : String) (state : ExecutionState)
    (hworlds : first.Alike second) :
    AgreeWith (turn (plan.withKey key) state first) (turn (plan.withKey other) state second) := by
  unfold turn
  cases state.conversation.checkPairing with
  | error error => exact .of_alike _ _ hworlds
  | ok =>
      rcases plan.backend.encode_alike state.conversation plan.tools plan.params key other with
        ⟨error, hencode, hagain⟩ | ⟨request, another, hencode, hagain, hrequests⟩
      · simp only [Plan.withKey, hencode, hagain]
        exact .of_alike _ _ hworlds
      · obtain ⟨reply, later, afterwards, hfirst, hsecond, hlater⟩ :=
          hworlds.send plan.model.provider hrequests
        simp only [Plan.withKey, hencode, hagain, hfirst, hsecond]
        cases reply with
        | error error => exact .of_alike _ _ hlater
        | ok body =>
            dsimp only
            cases plan.backend.decode body plan.model with
            | error error => exact .of_alike _ _ hlater
            | ok completion => exact .of_alike _ _ hlater

theorem dispatch_agree (settings : Settings) (keys others : String → Option String) (call : Call)
    (hworlds : first.Alike second) :
    Agree (dispatch (settings.withKeys keys) first call)
      (dispatch (settings.withKeys others) second call) := by
  obtain ⟨answer, later, afterwards, hfirst, hsecond, hlater⟩ :=
    hworlds.invoke settings keys others call.name call.arguments
  simp only [dispatch, hfirst, hsecond]
  cases answer with
  | error error => exact ⟨_, _, _, rfl, rfl, hlater⟩
  | ok content => exact ⟨_, _, _, rfl, rfl, hlater⟩

theorem dispatchAll_agree (settings : Settings) (keys others : String → Option String)
    (calls : List Call) (hworlds : first.Alike second) :
    Agree (dispatchAll (settings.withKeys keys) first calls)
      (dispatchAll (settings.withKeys others) second calls) := by
  induction calls generalizing first second with
  | nil => exact ⟨_, _, _, rfl, rfl, hworlds⟩
  | cons call rest ih =>
      obtain ⟨result, later, afterwards, hfirst, hsecond, hlater⟩ :=
        dispatch_agree settings keys others call hworlds
      obtain ⟨results, last, final, hrest, hothers, hlast⟩ := ih hlater
      simp only [dispatchAll, hfirst, hsecond, hrest, hothers]
      exact ⟨_, _, _, rfl, rfl, hlast⟩

theorem converse_agree (settings : Settings) (keys others : String → Option String) (plan : Plan)
    (key other : String) (rounds : Nat) (state : ExecutionState) (hworlds : first.Alike second) :
    AgreeWith (converse (settings.withKeys keys) (plan.withKey key) rounds state first)
      (converse (settings.withKeys others) (plan.withKey other) rounds state second) := by
  induction rounds generalizing state first second with
  | zero =>
      obtain ⟨result, next, later, afterwards, hfirst, hsecond, hlater⟩ :=
        turn_agree plan key other state hworlds
      rw [converse, converse, hfirst, hsecond]
      rcases result with error | _ | ⟨call, rest⟩
      · exact .of_alike _ _ hlater
      · exact .of_alike _ _ hlater
      · exact .of_alike _ _ hlater
  | succ rounds ih =>
      obtain ⟨result, next, later, afterwards, hfirst, hsecond, hlater⟩ :=
        turn_agree plan key other state hworlds
      rw [converse, converse, hfirst, hsecond]
      rcases result with error | _ | ⟨call, rest⟩
      · exact .of_alike _ _ hlater
      · exact .of_alike _ _ hlater
      · obtain ⟨results, last, final, hcalls, hagain, hlast⟩ :=
          dispatchAll_agree settings keys others (call :: rest) hlater
        simp only [hcalls, hagain]
        exact ih _ hlast

theorem run_agree (settings : Settings)
    (hkeys : ∀ provider, (keys provider).isSome = (others provider).isSome)
    (state : ExecutionState) (hworlds : first.Alike second) :
    AgreeWith (run (settings.withKeys keys) state first)
      (run (settings.withKeys others) state second) := by
  have hmodels : resolveModel (settings.withKeys keys) state =
      resolveModel (settings.withKeys others) state := rfl
  rw [run, run, hmodels]
  cases resolveModel (settings.withKeys others) state with
  | error error => exact .of_alike _ _ hworlds
  | ok model =>
      obtain ⟨result, later, afterwards, hfirst, hsecond, hlater⟩ :=
        hworlds.refreshFunctions settings keys others
      simp only [hfirst, hsecond]
      cases result with
      | error error => exact .of_alike _ _ hlater
      | ok =>
          dsimp only
          rw [← hlater.registry]
          rcases plan_alike settings state later.registry (hkeys model.provider) with
            ⟨error, hplan, hagain⟩ | ⟨plan, key, other, hplan, hagain⟩
          · simp only [hplan, hagain]
            exact .of_alike _ _ hlater
          · obtain ⟨result, next, last, final, hconverse, hother, hlast⟩ :=
              converse_agree settings keys others plan key other settings.maxToolRounds
                { state with
                  activeModel := some model.name, activeProvider := some model.provider } hlater
            simp only [hplan, hagain, Settings.withKeys_maxToolRounds, hconverse, hother]
            cases result with
            | error error => exact .of_alike _ _ hlast
            | ok =>
                dsimp only
                split
                · exact .of_alike _ _ hlast
                · exact .of_alike _ _ hlast

end Exchange

theorem Outcome.ofChange_agree (state : ExecutionState) {first second : World}
    (hworlds : first.Alike second) (change : Except RunError ExecutionState) :
    AgreeWith (ofChange state first change) (ofChange state second change) := by
  cases change with
  | error error => exact .of_alike _ _ hworlds
  | ok next => exact .of_alike _ _ hworlds

namespace Statement

variable {keys others : String → Option String} {first second : World}

theorem callFunction_agree (settings : Settings) (keys others : String → Option String)
    (state : ExecutionState) (hworlds : first.Alike second) (payload : String) :
    AgreeWith (callFunction (settings.withKeys keys) state first payload)
      (callFunction (settings.withKeys others) state second payload) := by
  rw [callFunction, callFunction]
  cases (state.substitute payload).bind Invocation.ofText with
  | error error => exact .of_alike _ _ hworlds
  | ok invocation =>
      obtain ⟨result, later, afterwards, hfirst, hsecond, hlater⟩ :=
        hworlds.refreshFunctions settings keys others
      simp only [hfirst, hsecond]
      cases result with
      | error error => exact .of_alike _ _ hlater
      | ok =>
          obtain ⟨answer, last, final, hcall, hagain, hlast⟩ :=
            hlater.invoke settings keys others invocation.name invocation.arguments
          simp only [hcall, hagain, ← hlater.registry]
          split
          · exact Outcome.ofChange_agree state hlast _
          · exact .of_alike _ _ hlater

/-- Every statement does the same with all keys. -/
theorem perform_agree (settings : Settings)
    (hkeys : ∀ provider, (keys provider).isSome = (others provider).isSome) (statement : Statement)
    (state : ExecutionState) (hworlds : first.Alike second) :
    AgreeWith (statement.perform (settings.withKeys keys) state first)
      (statement.perform (settings.withKeys others) state second) := by
  rw [perform, perform]
  cases statement.kind with
  | exec => exact Exchange.run_agree settings hkeys state hworlds
  | callFunction => exact callFunction_agree settings keys others state hworlds _
  | comment => exact .of_alike _ _ hworlds
  | halt => exact .of_alike _ _ hworlds
  | setModel => exact .of_alike _ _ hworlds
  | includeFile =>
      simp only [ExecutionState.includeFile, hworlds.tree]
      exact Outcome.ofChange_agree state hworlds _
  | attachImage =>
      simp only [ExecutionState.attachImage, hworlds.tree]
      exact Outcome.ofChange_agree state hworlds _
  | emitOutput =>
      simp only [emit]
      split
      · exact .of_alike _ _ { hworlds with output := congrArg (· ++ [_]) hworlds.output }
      · exact .of_alike _ _ hworlds
  | debugDump =>
      simp only [debug]
      split
      · exact .of_alike _ _ { hworlds with diagnostics := congrArg (· ++ [_]) hworlds.diagnostics }
      · exact .of_alike _ _ hworlds
  | deleteFiles =>
      simp only [delete]
      split
      · exact .of_alike _ _ hworlds
      · exact .of_alike _ _ { hworlds with tree := congrArg (deletePatterns _ · _) hworlds.tree }
  | _ => exact Outcome.ofChange_agree state hworlds _

end Statement

namespace Engine

variable {keys others : String → Option String} {first second : World}

theorem step_agree (settings : Settings)
    (hkeys : ∀ provider, (keys provider).isSome = (others provider).isSome) (engine : Engine)
    (hworlds : first.Alike second) :
    AgreeWith (engine.step (settings.withKeys keys) first)
      (engine.step (settings.withKeys others) second) := by
  rw [step, step]
  split
  · exact .of_alike _ _ hworlds
  · cases engine.state.current? with
    | none => exact .of_alike _ _ hworlds
    | some statement =>
        obtain ⟨result, next, later, afterwards, hfirst, hsecond, hlater⟩ :=
          statement.perform_agree settings hkeys engine.state hworlds
        simp only [hfirst, hsecond]
        cases result with
        | error error => exact .of_alike _ _ hlater
        | ok => exact .of_alike _ _ hlater

theorem runFor_agree (settings : Settings)
    (hkeys : ∀ provider, (keys provider).isSome = (others provider).isSome) (count : Nat)
    (engine : Engine) (hworlds : first.Alike second) :
    AgreeWith (runFor (settings.withKeys keys) count engine first)
      (runFor (settings.withKeys others) count engine second) := by
  induction count generalizing engine first second with
  | zero => exact .of_alike _ _ hworlds
  | succ count ih =>
      rw [runFor, runFor]
      split
      · obtain ⟨result, next, later, afterwards, hfirst, hsecond, hlater⟩ :=
          step_agree settings hkeys engine hworlds
        rw [hfirst, hsecond]
        cases result with
        | error error => exact .of_alike _ _ hlater
        | ok status => exact ih next hlater
      · exact .of_alike _ _ hworlds

/-- Runs with different keys for the same providers, from alike worlds, give the same results, leave
the same engine and alike worlds behind every number of steps: files, functions, texts and replies
are the same, and so is every request up to the values of its headers.  So neither the text of a
record of a run nor what is stored of it depends on any key. -/
theorem keys_stay_in_headers (settings : Settings) {keys others : String → Option String}
    (hkeys : ∀ provider, (keys provider).isSome = (others provider).isSome) (engine : Engine)
    {first second : World} (hworlds : first.Alike second) :
    AgreeWith (engine.step (settings.withKeys keys) first)
        (engine.step (settings.withKeys others) second) ∧
      AgreeWith (engine.run (settings.withKeys keys) first)
        (engine.run (settings.withKeys others) second) ∧
      ∀ count,
        AgreeWith (runFor (settings.withKeys keys) count engine first)
          (runFor (settings.withKeys others) count engine second) ∧
        (∀ now,
          ((runFor (settings.withKeys keys) count engine first).2.1.snapshot now).render =
            ((runFor (settings.withKeys others) count engine second).2.1.snapshot now).render) ∧
        ∀ store,
          (runFor (settings.withKeys keys) count engine first).2.1.persist store
              (runFor (settings.withKeys keys) count engine first).2.2.tree =
            (runFor (settings.withKeys others) count engine second).2.1.persist store
              (runFor (settings.withKeys others) count engine second).2.2.tree := by
  refine ⟨step_agree settings hkeys engine hworlds,
    runFor_agree settings hkeys _ engine hworlds, ?_⟩
  intro count
  refine ⟨runFor_agree settings hkeys count engine hworlds, ?_⟩
  obtain ⟨result, final, later, afterwards, hfirst, hsecond, hlater⟩ :=
    runFor_agree settings hkeys count engine hworlds
  refine ⟨fun now => ?_, fun store => ?_⟩
  · rw [hfirst, hsecond]
  · rw [hfirst, hsecond, hlater.tree]

theorem keys_stay_in_headers_asking :
    (asking.step (Settings.bare.withKeys fun _ => some "one") answering).2.2.requests.map
        (·.headers) =
      [[("Authorization", "Bearer one"), ("Content-Type", "application/json")]] ∧
    (asking.step (Settings.bare.withKeys fun _ => some "two") answering).2.2.requests.map
        (·.headers) =
      [[("Authorization", "Bearer two"), ("Content-Type", "application/json")]] ∧
    AgreeWith (asking.step (Settings.bare.withKeys fun _ => some "one") answering)
      (asking.step (Settings.bare.withKeys fun _ => some "two") answering) := by
  refine ⟨by decide +kernel, by decide +kernel, ?_⟩
  have hkeys : ∀ provider : String,
      ((fun _ => some "one") provider : Option String).isSome =
        ((fun _ => some "two") provider : Option String).isSome := fun _ => rfl
  exact (keys_stay_in_headers .bare hkeys asking (.refl answering)).1

end Engine

end PromptScript
