import AsterFsd.Core.Registry
import AsterFsd.Core.Verdicts

/-! # Weather

What a client is told about the weather is what the provider said about the station that the client asked
for, near the position that the client had when it asked; and it is told once, and it alone.
-/

namespace AsterFsd

open Network

/-- The event tells of the weather at a station. -/
def Event.weather : Event → Bool
  | .weatherReport .. => true
  | .weatherProfile .. => true
  | _ => false

/-- There is nothing in the observation that a client may be told. -/
def WeatherObservation.Useless (parsed : Bool) (observation : WeatherObservation) : Prop :=
  if parsed then ∀ profile, observation.profile = some profile → profile.validate ≠ .ok ()
  else ∀ report, observation.rawMetar = some report → ¬ Text.Unbroken report

/-- What a client that asked for the weather at the station, parsed or raw, is told after the answer of the
    provider. -/
inductive WeatherReply (source : Callsign) (station : String) : Bool →
    Except WeatherProviderError (Option WeatherObservation) → Event → Prop where
  | profile {observation : WeatherObservation} {profile : WeatherProfile}
      (observed : observation.profile = some profile) (valid : profile.validate = .ok ()) :
      WeatherReply source station true (.ok (some observation)) (.weatherProfile source station profile)
  | report {observation : WeatherObservation} {report : String}
      (observed : observation.rawMetar = some report) (line : Text.Unbroken report) :
      WeatherReply source station false (.ok (some observation))
        (.weatherReport "server" source station report)
  | unknown {parsed : Bool} {answer : Except WeatherProviderError (Option WeatherObservation)}
      (useless : ∀ observation, answer = .ok (some observation) → observation.Useless parsed) :
      WeatherReply source station parsed answer
        (.error (some source) .noWeather station ErrorCode.noWeather.description)

/-- Under the lock of the call, in some state of the run, `c` asked for the weather: it was active under the
    callsign, and the coordinates were those of its position. -/
def WeatherAsked (config : CoreConfig) (as : List Action) (id : CallId) (c : ConnectionId)
    (source : Callsign) (station : String) (parsed : Bool) (coordinates : Option (Float × Float)) :
    Prop :=
  ∃ before after mid session presence, as = before ++ .lock id :: after ∧
    (machine config).Trace before mid ∧
    mid.calls.lookup id = some ⟨c, .weatherRequest source station parsed, .invoked⟩ ∧
    mid.state.ActiveAs c session presence ∧ presence.callsign = source ∧
    coordinates = session.position.map (·.coordinates)

/-! ## Replies -/

theorem delimited_iff {report : String} :
    (report.toList.any fun c => c = '\r' ∨ c = '\n') = true ↔ ¬ Text.Unbroken report := by
  rw [Text.unbroken_iff]
  simp only [List.any_eq_true, decide_eq_true_eq, not_forall, not_and_or, ne_eq, not_not, exists_prop]

/-- The provider's answer is made one reply. -/
theorem weatherAnswered_reply (c : ConnectionId) (source : Callsign) (station : String) (parsed : Bool)
    (answer : Except WeatherProviderError (Option WeatherObservation)) :
    ∃ event, WeatherReply source station parsed answer event ∧
      weatherAnswered c source station parsed answer = send [c] event := by
  unfold weatherAnswered parsedWeatherEffect rawWeatherEffect noWeather errorEffect
  split
  · rename_i observation
    split
    · rename_i parse
      subst parse
      split
      · rename_i missing
        refine ⟨_, .unknown fun other same => ?_, rfl⟩
        obtain rfl := Option.some.inj (Except.ok.inj same)
        simp [WeatherObservation.Useless, missing]
      · rename_i profile observed
        split
        · rename_i error invalid
          refine ⟨_, .unknown fun other same => ?_, rfl⟩
          obtain rfl := Option.some.inj (Except.ok.inj same)
          simp [WeatherObservation.Useless, observed, invalid]
        · rename_i valid
          exact ⟨_, .profile observed valid, rfl⟩
    · rename_i raw
      obtain rfl : parsed = false := Bool.eq_false_iff.mpr raw
      split
      · rename_i missing
        refine ⟨_, .unknown fun other same => ?_, rfl⟩
        obtain rfl := Option.some.inj (Except.ok.inj same)
        simp [WeatherObservation.Useless, missing]
      · rename_i report observed
        split
        · rename_i delimited
          refine ⟨_, .unknown fun other same => ?_, rfl⟩
          obtain rfl := Option.some.inj (Except.ok.inj same)
          simpa [WeatherObservation.Useless, observed] using delimited_iff.mp delimited
        · rename_i undelimited
          exact ⟨_, .report observed (not_not.mp (mt delimited_iff.mpr undelimited)), rfl⟩
  · exact ⟨_, .unknown fun _ same => (nomatch same), rfl⟩
  · exact ⟨_, .unknown fun _ same => (nomatch same), rfl⟩

/-! ## Questions -/

theorem weatherRequestCoordinates_ok {state : NetworkState} {c : ConnectionId} {source : Callsign}
    {coordinates : Option (Float × Float)} :
    weatherRequestCoordinates state c source = .ok coordinates ↔
      ∃ session presence, state.ActiveAs c session presence ∧ presence.callsign = source ∧
        coordinates = session.position.map (·.coordinates) := by
  unfold weatherRequestCoordinates
  constructor
  · intro read
    split at read
    · cases read
    · rename_i session found
      split at read
      · cases read
      · rename_i active
        split at read
        · cases read
        · rename_i own
          obtain ⟨presence, present, named⟩ := Option.map_eq_some_iff.mp (not_not.mp own)
          exact ⟨session, presence, ⟨found, not_not.mp active, present⟩, named,
            (Except.ok.inj read).symm⟩
  · rintro ⟨session, presence, ⟨found, active, present⟩, rfl, rfl⟩
    simp [found, active, Session.callsign, present]

/-- A call that waits for the provider has just asked, under the lock. -/
theorem lockSection_observing {config : CoreConfig} {state state' : NetworkState} {c : ConnectionId}
    {command : Command} {stage : Stage} {source : Callsign} {station : String} {parsed : Bool}
    {coordinates : Option (Float × Float)}
    (performed : lockSection config state c command stage =
      some (state', .observing source station parsed coordinates)) :
    stage = .invoked ∧ command = .weatherRequest source station parsed ∧
      weatherRequestCoordinates state c source = .ok coordinates := by
  cases stage with
  | invoked =>
      cases command with
      | weatherRequest =>
          simp only [lockSection] at performed
          split at performed
          · cases performed
          · rename_i read
            cases performed
            exact ⟨rfl, rfl, read⟩
      | identify | login =>
          simp only [lockSection] at performed
          split at performed <;> cases performed
      | _ => cases performed
  | _ => cases performed

section Runs

variable {config : CoreConfig} {as : List Action} {w w' : World} {action : Action} {id : CallId}
  {c : ConnectionId}

theorem WeatherAsked.append {source : Callsign} {station : String} {parsed : Bool}
    {coordinates : Option (Float × Float)}
    (asked : WeatherAsked config as id c source station parsed coordinates) (bs : List Action) :
    WeatherAsked config (as ++ bs) id c source station parsed coordinates := by
  obtain ⟨before, after, mid, session, presence, rfl, rest⟩ := asked
  exact ⟨before, after ++ bs, mid, session, presence, by simp, rest⟩

/-- After every run, a call that waits for the provider asked in that run. -/
theorem Trace.weatherAsked (trace : (machine config).Trace as w) {call : Call} {source : Callsign}
    {station : String} {parsed : Bool} {coordinates : Option (Float × Float)}
    (found : w.calls.lookup id = some call)
    (stage : call.stage = .observing source station parsed coordinates) :
    WeatherAsked config as id call.connectionId source station parsed coordinates := by
  have all : ∀ id call source station parsed coordinates, w.calls.lookup id = some call →
      call.stage = .observing source station parsed coordinates →
        WeatherAsked config as id call.connectionId source station parsed coordinates := by
    refine trace.invariant (fun as w => ∀ id call source station parsed coordinates,
      w.calls.lookup id = some call → call.stage = .observing source station parsed coordinates →
        WeatherAsked config as id call.connectionId source station parsed coordinates)
      (by simp [machine]) ?_
    intro as w action w' trace held step id call source station parsed coordinates found stage
    obtain stored | ⟨_, _, -, -, rfl⟩ | ⟨before, _, rfl, stored, rfl, performed⟩ |
      ⟨before, _, _, -, stored, rfl, outcome⟩ := World.step_calls step found
    · exact (held id call source station parsed coordinates stored stage).append _
    · cases stage
    · subst stage
      obtain ⟨c, command, reached⟩ := before
      obtain ⟨rfl, rfl, read⟩ := lockSection_observing performed
      obtain ⟨session, presence, active, own, position⟩ := weatherRequestCoordinates_ok.mp read
      exact ⟨as, [], w, session, presence, rfl, trace, stored, active, own, position⟩
    · subst stage
      generalize before.stage = reached at outcome
      cases outcome
  exact all id call source station parsed coordinates found stage

/-! ## What is told -/

theorem Event.Plain.dry {event : Event} (plain : event.Plain) : event.weather = false := by
  cases event with
  | weatherReport | weatherProfile => exact plain.elim
  | _ => rfl

theorem Network.Refusal.dry {effects : Effects} (refusal : Refusal c effects) {delivery : Delivery}
    (member : delivery ∈ effects.deliveries) : delivery.event.weather = false := by
  cases refusal with
  | silence => cases member
  | error | errorAndClose =>
      rw [List.mem_singleton.mp member]
      rfl

/-- Nothing but an answer of the weather provider tells of the weather. -/
theorem World.step_weather (step : w.step config action = some w') {delivery : Delivery}
    (member : delivery ∈ (w.committed config action).deliveries)
    (weather : delivery.event.weather = true) :
    ∃ id lookup answer, action = .answered id (.observed lookup answer) := by
  have plainly : ∀ {effects : Effects}, effects.Plain → delivery ∈ effects.deliveries → False := by
    intro effects plain told
    rw [(plain.events delivery told).dry] at weather
    cases weather
  cases action with
  | register | call =>
      simp only [committed, perform] at member
      split at member <;> cases member
  | lock id =>
      obtain ⟨call, state, stage, found, performed, -⟩ := World.step_lock.mp step
      rw [World.committed_lock found performed] at member
      exact (plainly (lockSection_plain performed) member).elim
  | answered id answer =>
      obtain ⟨⟨c, command, stage⟩, stage', found, received, -⟩ := World.step_answered.mp step
      rw [World.committed_answered found received] at member
      dsimp only at received
      cases answerStage_answered received with
      | unauthorized refusal | rejected refusal =>
          rw [refusal.dry member] at weather
          cases weather
      | authorized | authenticated => cases member
      | observed =>
          cases answer with
          | observed lookup answer => exact ⟨id, lookup, answer, rfl⟩
          | authorized | authenticated => cases received
  | ret id =>
      obtain ⟨c, command, effects, found, -⟩ := World.step_ret.mp step
      simp [committed, perform, found] at member
  | disconnect c reason => exact (plainly (disconnectLocked_plain w.state c reason) member).elim
  | windDelta speed direction =>
      have plain : (w.committed config (.windDelta speed direction)).Plain := send_plain trivial
      exact (plainly plain member).elim

/-- The answer of the weather provider is told to the client that asked, in one reply. -/
theorem World.step_observed (trace : (machine config).Trace as w) {lookup : WeatherLookup}
    {answer : Except WeatherProviderError (Option WeatherObservation)}
    (step : w.step config (.answered id (.observed lookup answer)) = some w') :
    ∃ c source parsed event,
      WeatherAsked config as id c source lookup.station parsed lookup.coordinates ∧
        WeatherReply source lookup.station parsed answer event ∧
          w.committed config (.answered id (.observed lookup answer)) = send [c] event := by
  obtain ⟨⟨c, command, stage⟩, stage', found, received, -⟩ := World.step_answered.mp step
  rw [World.committed_answered found received]
  dsimp only at received
  cases stage with
  | observing source station parsed coordinates =>
      have asked := Trace.weatherAsked trace found rfl
      simp only [answerStage] at received
      split at received
      · cases received
      · rename_i same
        obtain rfl := not_not.mp same
        obtain ⟨event, reply, told⟩ := weatherAnswered_reply c source station parsed answer
        cases received
        exact ⟨c, source, parsed, event, asked, reply, told⟩
  | _ => cases received

end Runs

/-! ## Weather in a run -/

/-- In every run, only an answer of the weather provider makes the core tell of the weather, and each of its
    answers makes one reply: to the client that asked, under the callsign that it asked with while it was
    active, about the station it asked for and the coordinates of the position it had then. -/
theorem weather_faithful (config : CoreConfig) (as : List Action) (w : World)
    (trace : (machine config).Trace as w) :
    (∀ action w' delivery, w.step config action = some w' →
      delivery ∈ (w.committed config action).deliveries → delivery.event.weather = true →
        ∃ id lookup answer, action = .answered id (.observed lookup answer)) ∧
    ∀ id lookup answer w', w.step config (.answered id (.observed lookup answer)) = some w' →
      ∃ c source parsed event,
        WeatherAsked config as id c source lookup.station parsed lookup.coordinates ∧
          WeatherReply source lookup.station parsed answer event ∧
            w.committed config (.answered id (.observed lookup answer)) =
              ⟨[⟨[c], event⟩], none⟩ :=
  ⟨fun _ _ _ step member weather => World.step_weather step member weather,
    fun _ _ _ _ step => World.step_observed trace step⟩

namespace Sample

/-- A pilot asks for the raw report of a station. -/
def weatherRun : List Action :=
  loginRun ++ [.call 1 ⟨1⟩ (.weatherRequest callsign "EDDF" false), .lock 1]

/-- What the provider knows of the station. -/
def observation : WeatherObservation := ⟨some "EDDF 281220Z 24008KT CAVOK", none⟩

end Sample

/-- The pilot is told the report. -/
theorem weather_faithful_report : ∃ w w', (machine Sample.config).Trace Sample.weatherRun w ∧
    w.step Sample.config (.answered 1 (.observed ⟨"EDDF", none⟩ (.ok (some Sample.observation)))) =
      some w' ∧
    ∃ c source parsed event,
      WeatherAsked Sample.config Sample.weatherRun 1 c source "EDDF" parsed none ∧
        WeatherReply source "EDDF" parsed (.ok (some Sample.observation)) event := by
  have trace := (machine Sample.config).trace_final Sample.weatherRun (by decide)
  have stepped : (((machine Sample.config).final Sample.weatherRun (by decide)).step Sample.config
      (.answered 1 (.observed ⟨"EDDF", none⟩ (.ok (some Sample.observation))))).isSome = true := by
    decide
  obtain ⟨c, source, parsed, event, asked, reply, -⟩ :=
    (weather_faithful Sample.config _ _ trace).2 1 ⟨"EDDF", none⟩ (.ok (some Sample.observation)) _
      (Option.some_get stepped).symm
  exact ⟨_, _, trace, (Option.some_get stepped).symm, c, source, parsed, event, asked, reply⟩

end AsterFsd
