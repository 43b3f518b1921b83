import AsterFsd.Protocol.AsterEvents

/-! # The text of the Aster JSON dialect

What a native client reads in the frames that the server sends it. The library reads every number of a
text as it was printed but a float, of which it may read a neighbour.
-/

namespace AsterFsd

open Json

namespace Json

/-! ## Floats in a text -/

mutual

/-- The value with every float as it is read again. -/
def rounded (reread : Float → Float) : Json → Json
  | .float value => .float (reread value)
  | .array items => .array (roundedItems reread items)
  | .object fields => .object (roundedFields reread fields)
  | .null => .null
  | .bool value => .bool value
  | .number value => .number value
  | .string value => .string value

def roundedItems (reread : Float → Float) : List Json → List Json
  | [] => []
  | item :: items => item.rounded reread :: roundedItems reread items

def roundedFields (reread : Float → Float) : List (String × Json) → List (String × Json)
  | [] => []
  | (key, value) :: fields => (key, value.rounded reread) :: roundedFields reread fields

end

attribute [simp] rounded roundedFields

/-- The values of the type hold no float. -/
def Format.Exact (format : Format α) : Prop :=
  ∀ reread value, (format.write value).rounded reread = format.write value

namespace Format

theorem exact_string : Format.string.Exact := fun _ _ => rfl

theorem exact_callsign : Format.callsign.Exact := fun _ _ => rfl

theorem exact_int32 : Format.int32.Exact := fun _ _ => rfl

theorem exact_units {name : α → String} {all : List α}
    {named : ∀ value, all.find? (fun other => name other = name value) = some value} :
    (units name all named).Exact := fun _ _ => rfl

theorem exact_list {format : Format α} (exact : format.Exact) : format.list.Exact := by
  intro reread values
  have items : roundedItems reread (values.map format.write) = values.map format.write := by
    induction values with
    | nil => rfl
    | cons value values ih => rw [List.map_cons, roundedItems, exact, ih]
  simp only [list, rounded, items]

theorem exact_vector {format : Format α} {n : Nat} (exact : format.Exact) :
    (format.vector n).Exact := fun reread values => exact_list exact reread values.toList

theorem exact_option {format : Format α} {stated : ∀ value, format.write value ≠ .null}
    (exact : format.Exact) : (format.option stated).Exact := by
  intro reread value
  cases value with
  | none => rfl
  | some value => exact exact reread value

end Format

end Json

theorem QueryKind.exact_format : QueryKind.format.Exact := by
  intro reread kind
  cases kind <;> rfl

theorem Destination.exact_format : Destination.format.Exact := by
  intro reread destination
  cases destination <;> rfl

theorem FlightPlan.exact_format : FlightPlan.format.Exact := fun _ _ => rfl

theorem ClientPresence.exact_format : ClientPresence.format.Exact := by
  intro reread client
  have revision : Format.uint16.Exact := fun _ _ => rfl
  have simulator : AsterProtocolV1.Incoming.simulatorTypeFormat.Exact :=
    Format.exact_option Format.exact_int32
  simp [format, revision _ _, simulator _ _, Format.exact_callsign _ _, Format.exact_string _ _,
    Format.exact_int32 _ _, ClientType.format, Format.exact_units _ _]

/-! ## Floats in an event -/

def Position.rounded (reread : Float → Float) : Position → Position
  | .pilot position =>
      .pilot { position with
        latitude := reread position.latitude, longitude := reread position.longitude }
  | .atc position =>
      .atc { position with
        latitude := reread position.latitude, longitude := reread position.longitude }

def WeatherProfile.rounded (reread : Float → Float) (profile : WeatherProfile) : WeatherProfile :=
  { profile with visibility := reread profile.visibility }

theorem Position.rounded_write (reread : Float → Float) (position : Position) :
    (format.write position).rounded reread = format.write (position.rounded reread) := by
  cases position <;> rfl

theorem WeatherProfile.rounded_write (reread : Float → Float) (profile : WeatherProfile) :
    (format.write profile).rounded reread = format.write (profile.rounded reread) := by
  have temperature : TemperatureLayer.format.Exact := fun _ _ => rfl
  have wind : WindLayer.format.Exact := fun _ _ => rfl
  have cloud : CloudLayer.format.Exact := fun _ _ => rfl
  have visibility : (Format.float.write profile.visibility).rounded reread =
      Format.float.write (reread profile.visibility) := rfl
  simp [format, WeatherProfile.rounded, Format.exact_vector temperature _ _, Format.exact_vector wind _ _,
    Format.exact_vector cloud _ _, cloud _ _, Format.exact_int32 _ _, visibility]

namespace Event

/-- The event with its coordinates or its visibility as they are read again. -/
def rounded (reread : Float → Float) : Event → Event
  | position update => position (update.rounded reread)
  | weatherProfile destination station profile =>
      weatherProfile destination station (profile.rounded reread)
  | event => event

/-- The coordinates or the visibility in an event. -/
def floats : Event → List Float
  | position update => [update.coordinates.1, update.coordinates.2]
  | weatherProfile _ _ profile => [profile.visibility]
  | _ => []

theorem rounded_versioned (reread : Float → Float) (event : Event) :
    (Json.object event.versioned).rounded reread = .object (event.rounded reread).versioned := by
  simp only [versioned_eq, Json.rounded]
  refine congrArg _ ?_
  cases event with
  | position update => simp [toFields, Event.rounded, Position.rounded_write]
  | weatherProfile destination station profile =>
      simp [toFields, Event.rounded, WeatherProfile.rounded_write, Format.exact_callsign _ _,
        Format.exact_string _ _]
  | _ =>
      simp [toFields, Event.rounded, Format.exact_callsign _ _, Format.exact_string _ _,
        Format.exact_int32 _ _, Format.exact_list Format.exact_string _ _, Destination.exact_format _ _,
        QueryKind.exact_format _ _, FlightPlan.exact_format _ _, ClientPresence.exact_format _ _,
        ClientType.format, HandoffKind.format, ClientDataKind.format, ErrorCode.format,
        Callsign.optionFormat, Format.exact_option Format.exact_callsign _ _, Format.exact_units _ _]

theorem rounded_eq {reread : Float → Float} {event : Event}
    (exact : ∀ value ∈ event.floats, reread value = value) : event.rounded reread = event := by
  cases event with
  | position update =>
      obtain ⟨latitude, exact⟩ := List.forall_mem_cons.mp exact
      have longitude := List.forall_mem_singleton.mp exact
      cases update with
      | pilot position | atc position =>
          simp only [Position.coordinates] at latitude longitude
          simp [Event.rounded, Position.rounded, latitude, longitude]
  | weatherProfile destination station profile =>
      simp [Event.rounded, WeatherProfile.rounded, List.forall_mem_singleton.mp exact]
  | _ => rfl

end Event

/-- The library prints the event with its version as a text of the object of both, in whatever order it
    keeps the fields; the text is read with each float as `reread` gives it. -/
def SerdeJson.ReadsBack (json : SerdeJson) (reread : Float → Float) (Reads : List UInt8 → Json → Prop)
    (event : Event) : Prop :=
  ∀ fields bytes, json.toValue event = .ok (.object fields) →
    json.toVec (.object (Json.insert fields "v" (.number AsterProtocolV1.VERSION.toNat))) = .ok bytes →
    Reads bytes ((Json.object event.versioned).rounded reread)

namespace AsterProtocolV1

/-- An event is one frame, which is read as the event with its floats as they are read again. -/
theorem encode_reads {json : SerdeJson} (documented : json.Documented) {reread : Float → Float}
    {Reads : List UInt8 → Json → Prop} {event : Event} (readsBack : json.ReadsBack reread Reads event)
    (context : EncodeContext) :
    ∃ out, encode json context event = .ok [out] ∧
      Reads out.bytes (.object (event.rounded reread).versioned) := by
  obtain ⟨fields, valued⟩ := documented.toValue_object event
  obtain ⟨bytes, printed, undelimited⟩ :=
    documented.toVec_line (.object (Json.insert fields "v" (.number VERSION.toNat)))
  have reads := readsBack fields bytes valued printed
  rw [Event.rounded_versioned] at reads
  refine ⟨⟨bytes, undelimited⟩, ?_, reads⟩
  simp only [encode, valued, line, printed, WireFrame.new_ok undelimited]
  rfl

end AsterProtocolV1

/-! ## Events -/

/-- A client reads the text as the value: where the value is that of an event, it is what is read. -/
def Event.ReadsAs (read : List UInt8 → Option Event) (text : List UInt8) (value : Json) : Prop :=
  ∀ event, Event.fromValue value = some event → read text = some event

/-- Nothing that the core sends is lost on the way to a native client: whatever an operation delivers,
    in whatever order the operations interleave, has an object that JSON can spell, with the version
    beside it, and is sent in one frame. What a client reads there is the event, with a neighbour for
    any coordinate or visibility that the library does not read as it was printed. -/
theorem aster_lossless (config : CoreConfig) (w w' : World) (action : Action)
    (step : w.step config action = some w') (json : SerdeJson) (documented : json.Documented)
    (reread : Float → Float) (read : List UInt8 → Option Event) :
    ∀ delivery ∈ (w.committed config action).deliveries,
      (Json.object delivery.event.versioned).Finite ∧ ("v", Json.number 1) ∈ delivery.event.versioned ∧
        ((delivery.event.Spelled → json.ReadsBack reread (Event.ReadsAs read) delivery.event) →
          ∀ context, ∃ out, AsterProtocolV1.encode json context delivery.event = .ok [out] ∧
            read out.bytes = some (delivery.event.rounded reread) ∧
            ((∀ value ∈ delivery.event.floats, reread value = value) →
              read out.bytes = some delivery.event)) := by
  intro delivery member
  have spelled := World.step_spelled step delivery member
  refine ⟨spelled.finite, ?_, fun readsBack context => ?_⟩
  · rw [Event.versioned_eq]
    exact List.mem_append_right _ (List.mem_singleton_self _)
  · obtain ⟨out, encoded, reads⟩ :=
      AsterProtocolV1.encode_reads documented (readsBack spelled) context
    have told := reads _ (Event.fromValue_versioned _)
    exact ⟨out, encoded, told, fun exact => by rw [told, Event.rounded_eq exact]⟩

namespace Sample

/-- The first of two pilots, on a classic listener, sends everyone a text. -/
def greetingAll : List Action := twoPilots ++ [.call 2 ⟨1⟩ (.text callsign .all "hello")]

def greetingText : String :=
  "\x7b\"destination\":\x7b\"kind\":\"all\"\x7d,\"message\":\"hello\",\"source\":\"AFR12\"," ++
    "\"type\":\"text\",\"v\":1\x7d"

/-- A library that knows the text of the greeting. -/
def greetingJson : SerdeJson where
  fromSlice bytes :=
    if bytes = Text.bytes greetingText then .ok (.text 1 "AFR12" .all "hello") else .error "unread"
  toValue event := .ok (.object event.toFields)
  toVec _ := .ok (Text.bytes greetingText)

/-- A client that knows it. -/
def readGreeting (bytes : List UInt8) : Option Event :=
  if bytes = Text.bytes greetingText then some (.text callsign .all "hello") else none

theorem greetingJson_documented : greetingJson.Documented where
  toValue_object event := ⟨event.toFields, rfl⟩
  toVec_line _ := ⟨Text.bytes greetingText, rfl, by decide +kernel⟩

theorem readGreeting_readsBack :
    greetingJson.ReadsBack id (Event.ReadsAs readGreeting) (.text callsign .all "hello") := by
  rintro fields bytes - printed event read
  obtain rfl := Except.ok.inj printed
  rw [Event.rounded_versioned, Event.fromValue_versioned] at read
  obtain rfl := Option.some.inj read
  simp [readGreeting, Event.rounded]

end Sample

theorem aster_lossless_greeting :
    ∃ w w', (machine Sample.config).Trace Sample.greetingAll w ∧
      w.step Sample.config (.lock 2) = some w' ∧
      ⟨[⟨2⟩], .text Sample.callsign .all "hello"⟩ ∈
        (w.committed Sample.config (.lock 2)).deliveries ∧
      ∀ context, ∃ out, AsterProtocolV1.encode Sample.greetingJson context
        (.text Sample.callsign .all "hello") = .ok [out] ∧
        Sample.readGreeting out.bytes = some (.text Sample.callsign .all "hello") := by
  have trace := (machine Sample.config).trace_final Sample.greetingAll (by decide)
  have stepped : (((machine Sample.config).final Sample.greetingAll (by decide)).step Sample.config
      (.lock 2)).isSome = true := by decide
  have sent : ⟨[⟨2⟩], .text Sample.callsign .all "hello"⟩ ∈
      (((machine Sample.config).final Sample.greetingAll (by decide)).committed Sample.config
        (.lock 2)).deliveries := by decide
  refine ⟨_, _, trace, (Option.some_get stepped).symm, sent, fun context => ?_⟩
  obtain ⟨-, -, reads⟩ := aster_lossless Sample.config _ _ (.lock 2) (Option.some_get stepped).symm
    Sample.greetingJson Sample.greetingJson_documented id Sample.readGreeting _ sent
  obtain ⟨out, encoded, -, exact⟩ := reads (fun _ => Sample.readGreeting_readsBack) context
  exact ⟨out, encoded, exact fun _ _ => rfl⟩

/-! ## Relays -/

/-- The command with the coordinates of a position as they are read again. -/
def Command.rounded (reread : Float → Float) : Command → Command
  | .position update => .position (update.rounded reread)
  | command => command

theorem Command.Relays.rounded {command : Command} {event : Event} (relays : command.Relays event)
    (reread : Float → Float) :
    (∃ update, command = .position update ∧ event = .position update) ∨
      command.rounded reread = command ∧ event.rounded reread = event := by
  cases relays with
  | routed routes =>
      cases command with
      | text | response | pong | handoff | clientData =>
          cases routes
          exact .inr ⟨rfl, rfl⟩
      | _ => cases routes
  | query | ping | flightPlan => exact .inr ⟨rfl, rfl⟩
  | position => exact .inl ⟨_, rfl, rfl⟩

theorem Command.Relays.rounded_eq {command : Command} {event : Event} (relays : command.Relays event)
    {reread : Float → Float} (exact : ∀ value ∈ event.floats, reread value = value) :
    command.rounded reread = command := by
  obtain ⟨update, rfl, rfl⟩ | ⟨same, -⟩ := relays.rounded reread
  · exact congrArg Command.position (Event.position.inj (Event.rounded_eq exact))
  · exact same

namespace AsterProtocolV1

/-- The event in which others are told a command is read as a message that issues it, with the floats of
    both as they are read again. -/
theorem issuing_rounded {command : Command} {event : Event} (relays : command.Relays event)
    (notPong : ∀ source destination payload, command ≠ .pong source destination payload)
    (reread : Float → Float) :
    ∃ incoming, Incoming.fromValue (.object (event.rounded reread).versioned) = some incoming ∧
      incoming.intoCommand = .ok (command.rounded reread) := by
  obtain ⟨update, rfl, rfl⟩ | ⟨sameCommand, sameEvent⟩ := relays.rounded reread
  · exact ⟨_, fromValue_position (update.rounded reread), intoCommand_issuing rfl fun _ => nofun⟩
  · obtain ⟨incoming, issued, converts⟩ := issuing_of_relays relays notPong
    rw [sameCommand, sameEvent]
    exact ⟨incoming, fromValue_relayed relays issued, converts⟩

end AsterProtocolV1

/-- Whatever dialect a command came in, every other native client that is told it is sent one frame, and
    reading the frame as a message gives back the command, so it could have been issued there, with a
    neighbour for any coordinate that the library does not read as it was printed. Only a pong has no
    such object, and logins, logoffs and kills are told as news of presence. -/
theorem aster_relay_transparent (config : CoreConfig) (w w' : World)
    (reach : (machine config).Reachable w) (action : Action) (c : ConnectionId) (command : Command)
    (step : w.step config action = some w') (operation : w.operation action = some (c, some command))
    (shared : ¬ command.Unshared)
    (notPong : ∀ source destination payload, command ≠ .pong source destination payload)
    (json : SerdeJson) (documented : json.Documented) (reread : Float → Float) :
    ∀ delivery ∈ (w.committed config action).deliveries, ∀ r ∈ delivery.recipients, r ≠ c →
      (delivery.event.Spelled → json.ReadsBack reread json.ReadsAs delivery.event) → ∀ context, ∃ out,
        AsterProtocolV1.encode json context delivery.event = .ok [out] ∧
          AsterProtocolV1.decode json out.bytes = .ok (command.rounded reread) ∧
          ((∀ value ∈ delivery.event.floats, reread value = value) →
            AsterProtocolV1.decode json out.bytes = .ok command) := by
  intro delivery member r named other readsBack context
  obtain ⟨issuer, executed, same, sends⟩ | ⟨_, _, rfl, -⟩ := World.step_sends reach step member
  · obtain ⟨rfl, rfl⟩ := Prod.mk.inj (Option.some.inj (operation.symm.trans same))
    have relays := sends.relays shared named other
    obtain ⟨incoming, message, converts⟩ := AsterProtocolV1.issuing_rounded relays notPong reread
    obtain ⟨out, encoded, reads⟩ := AsterProtocolV1.encode_reads documented
      (readsBack (World.step_spelled step delivery member)) context
    have decoded : AsterProtocolV1.decode json out.bytes = .ok (command.rounded reread) := by
      simp only [AsterProtocolV1.decode, reads incoming message, converts]
    refine ⟨out, encoded, decoded, fun exact => ?_⟩
    rw [decoded, relays.rounded_eq exact]
  · cases operation

namespace Sample

theorem greetingJson_readsBack :
    greetingJson.ReadsBack id greetingJson.ReadsAs (.text callsign .all "hello") := by
  rintro fields bytes - printed incoming read
  obtain rfl := Except.ok.inj printed
  have relays : (Command.text callsign .all "hello").Relays (.text callsign .all "hello") :=
    .routed rfl
  have relayed : AsterProtocolV1.Incoming.fromValue
      (.object (Event.text callsign .all "hello").versioned) =
        some (.text 1 "AFR12" .all "hello") :=
    AsterProtocolV1.fromValue_relayed relays rfl
  rw [Event.rounded_versioned] at read
  obtain rfl := Option.some.inj (relayed.symm.trans read)
  simp [greetingJson]

end Sample

set_option maxRecDepth 4000 in
theorem aster_relay_transparent_greeting :
    ∃ w w', (machine Sample.config).Trace Sample.greetingAll w ∧
      w.step Sample.config (.lock 2) = some w' ∧
      ⟨[⟨2⟩], .text Sample.callsign .all "hello"⟩ ∈
        (w.committed Sample.config (.lock 2)).deliveries ∧
      ∀ context, ∃ out, AsterProtocolV1.encode Sample.greetingJson context
        (.text Sample.callsign .all "hello") = .ok [out] ∧
        AsterProtocolV1.decode Sample.greetingJson out.bytes =
          .ok (.text Sample.callsign .all "hello") := by
  have trace := (machine Sample.config).trace_final Sample.greetingAll (by decide)
  have stepped : (((machine Sample.config).final Sample.greetingAll (by decide)).step Sample.config
      (.lock 2)).isSome = true := by decide
  have sent : ⟨[⟨2⟩], .text Sample.callsign .all "hello"⟩ ∈
      (((machine Sample.config).final Sample.greetingAll (by decide)).committed Sample.config
        (.lock 2)).deliveries := by decide
  refine ⟨_, _, trace, (Option.some_get stepped).symm, sent, fun context => ?_⟩
  obtain ⟨out, encoded, -, exact⟩ :=
    aster_relay_transparent Sample.config _ _ trace.reachable (.lock 2) ⟨1⟩
      (.text Sample.callsign .all "hello") (Option.some_get stepped).symm (by decide)
      (fun unshared => nomatch unshared.1) (fun _ _ _ => nofun) Sample.greetingJson
      Sample.greetingJson_documented id _ sent ⟨2⟩ (by decide) (by decide)
      (fun _ => Sample.greetingJson_readsBack) context
  exact ⟨out, encoded, exact fun _ _ => rfl⟩

end AsterFsd
