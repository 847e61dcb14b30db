import AddressBook.Config.LogLine
import AddressBook.Proofs.Fields
import AddressBook.Proofs.Keys

namespace AddressBook

/-- A record, as it is given to be written: its message has no values to fill in. -/
def LogRecord.input (record : LogRecord) : Config.LogInput :=
  ⟨record.logger, record.level.name, record.message, [], record.extra⟩

namespace Config

/-- The event that is made in a context. -/
def LogInput.event (context : Fields) (input : LogInput) : Except Failure Fields :=
  input.text.map fun message => logEvent context input.levelName input.logger message input.extra

theorem LogSettings.line_eq (settings : LogSettings) (context : Fields) (input : LogInput) :
    settings.line context input = input.event context >>= settings.renderer.line := by
  unfold LogSettings.line LogInput.event
  cases input.text with
  | error failure => rfl
  | ok message => rfl

theorem LogInput.levelName_of_info {input : LogInput} (info : input.level = "INFO") :
    input.levelName = "info" := by
  rw [levelName, info]
  decide +kernel

section Event
variable {context extra : Fields} {level logger message name : String}

/-- What an event says by itself; of several values for one name the first one counts. -/
def ownFields (level logger message : String) (extra : Fields) : Fields :=
  ("timestamp", timeMark) :: (extra.reverse ++
    [("logger", .string logger), ("level", .string level), ("event", .string message)])

/-- The context is asked only for what the event does not say by itself. -/
theorem get?_logEvent (kept : name ∉ passingNames) :
    (logEvent context level logger message extra).get? name =
      ((ownFields level logger message extra).get? name).or (context.get? name) := by
  have keep : (!passingNames.contains name) = true := by simpa using kept
  rw [logEvent, @Fields.get?_filter _ _ (fun name => !passingNames.contains name) keep,
    Fields.get?_put, Fields.get?_putAll, Fields.get?_put, Fields.get?_put, Fields.get?_putAllNew]
  rw [ownFields, Fields.get?_cons _ (_ ++ _), Fields.get?_append, Fields.get?_cons _ [_, _],
    Fields.get?_cons _ [_]]
  simp only [Option.or_assoc]

theorem nodup_logEvent : ((logEvent context level logger message extra).map Prod.fst).Nodup := by
  have bound := @Fields.nodup_putAllNew [("event", .string message)] context
    (List.nodup_singleton _)
  have leveled := @Fields.nodup_put _ "level" (.string level) bound
  have named := @Fields.nodup_put _ "logger" (.string logger) leveled
  have timed := @Fields.nodup_put _ "timestamp" timeMark (@Fields.nodup_putAll _ extra named)
  exact timed.sublist (List.filter_sublist.map Prod.fst)

end Event

section Record
variable {record : LogRecord} {context event : Fields} {name : String} {value : Json}

def ownFieldsOf (record : LogRecord) : Fields :=
  ownFields record.input.levelName record.logger record.message record.extra

/-- Whether what is bound in the context under a name is kept in the event of a record, whatever it
is. -/
def Keeps (record : LogRecord) (context : Fields) (name : String) : Prop :=
  ∀ value, ∃ event, record.input.event (context.put name value) = .ok event ∧
    event.get? name = some value

/-- The event of a record is made if and only if its further fields may be there. -/
theorem event_eq_ok_iff : record.input.event context = .ok event ↔
    record.input.checkExtra = .ok () ∧
      logEvent context record.input.levelName record.logger record.message record.extra = event := by
  rw [LogInput.event, LogInput.text]
  cases record.input.checkExtra with
  | error failure => exact iff_of_false nofun nofun
  | ok _ =>
    constructor
    · rintro ⟨⟩
      exact ⟨rfl, rfl⟩
    · rintro ⟨_, rfl⟩
      rfl

/-- What the record says stands, whatever is bound in the context. -/
theorem get?_event_of_said (made : record.input.event context = .ok event)
    (kept : name ∉ passingNames) (said : (ownFieldsOf record).get? name = some value) :
    event.get? name = some value := by
  obtain ⟨_, rfl⟩ := event_eq_ok_iff.mp made
  rw [get?_logEvent kept, ← ownFieldsOf, said, Option.some_or]

/-- What the record says nothing of is as it is bound in the context. -/
theorem get?_event_of_free (made : record.input.event context = .ok event)
    (kept : name ∉ passingNames) (free : name ∉ (ownFieldsOf record).map Prod.fst) :
    event.get? name = context.get? name := by
  obtain ⟨_, rfl⟩ := event_eq_ok_iff.mp made
  rw [get?_logEvent kept, ← ownFieldsOf, Fields.get?_eq_none_iff.mpr free, Option.none_or]

theorem nodup_event (made : record.input.event context = .ok event) :
    (event.map Prod.fst).Nodup := by
  obtain ⟨_, rfl⟩ := event_eq_ok_iff.mp made
  exact nodup_logEvent

/-- The context is kept under the names of which the record says nothing, and under no other. -/
theorem keeps_iff (plain : record.input.checkExtra = .ok ()) (kept : name ∉ passingNames) :
    Keeps record context name ↔ name ∉ (ownFieldsOf record).map Prod.fst := by
  constructor
  · intro keeps
    cases said : (ownFieldsOf record).get? name with
    | none => exact Fields.get?_eq_none_iff.mp said
    | some value =>
      have same (bound : Json) : bound = value := by
        obtain ⟨event, made, shown⟩ := keeps bound
        rw [get?_event_of_said made kept said] at shown
        exact (Option.some.inj shown).symm
      exact absurd ((same .null).trans (same (.bool true)).symm) nofun
  · intro free value
    have made := event_eq_ok_iff.mpr ⟨plain, Eq.refl (logEvent (context.put name value) _ _ _ _)⟩
    refine ⟨_, made, ?_⟩
    rw [get?_event_of_free made kept free, Fields.get?_put_self]

end Record

/-- An unlinking that ends well logs one record: who unlinked, and how many rows went. -/
theorem log_of_delete {scene : Scene} {world after : World} {user : Int} {address : Bytes}
    {deleted : Nat}
    (done : Session.run scene world (Keys.delete user address) = (.ok deleted, after)) :
    after.log = world.log ++ [Keys.deleteRecord user deleted] := by
  by_cases undisturbed : Keys.Undisturbed scene
  · rw [Keys.run_delete undisturbed] at done
    cases done
    rfl
  · obtain ⟨failure, _, failed, _⟩ := Keys.isStopped_delete undisturbed world user address
    rw [failed] at done
    cases done

def unlinkingNames : List String :=
  ["event", "level", "logger", "user_id", "deleted", "timestamp"]

/-- Whatever is bound in the context, the one record that an unlinking logs becomes an event with no
name twice that says who unlinked and how many rows went, and it is this event that the lines show.
What is bound in the context is kept if and only if the record says nothing under its name. -/
theorem unlinking_is_told_in_every_context (user : Int) (deleted : Nat) (context : Fields) :
    (∀ scene world address after,
      Session.run scene world (Keys.delete user address) = (.ok deleted, after) →
        after.log = world.log ++ [Keys.deleteRecord user deleted]) ∧
    ∃ event, (Keys.deleteRecord user deleted).input.event context = .ok event ∧
      (∀ settings : LogSettings, settings.line context (Keys.deleteRecord user deleted).input =
        settings.renderer.line event) ∧
      (event.map Prod.fst).Nodup ∧
      event.get? "event" = some (.string "public_key_delete") ∧
      event.get? "level" = some (.string "info") ∧
      event.get? "logger" = some (.string "src.keys.services") ∧
      event.get? "user_id" = some (.int user) ∧
      event.get? "deleted" = some (.int deleted) ∧
      event.get? "timestamp" = some timeMark ∧
      ∀ name ∉ passingNames,
        (name ∉ unlinkingNames → event.get? name = context.get? name) ∧
        (Keeps (Keys.deleteRecord user deleted) context name ↔ name ∉ unlinkingNames) := by
  have plain : (Keys.deleteRecord user deleted).input.checkExtra = .ok () := rfl
  obtain ⟨event, made⟩ :
      ∃ event, (Keys.deleteRecord user deleted).input.event context = .ok event :=
    ⟨_, event_eq_ok_iff.mpr ⟨plain, rfl⟩⟩
  have said {name : String} {value : Json} := @get?_event_of_said _ _ _ name value made
  have level : (ownFieldsOf (Keys.deleteRecord user deleted)).get? "level" =
      some (.string "info") := by
    rw [ownFieldsOf, LogInput.levelName_of_info rfl]
    rfl
  have names (name : String) :
      name ∈ (ownFieldsOf (Keys.deleteRecord user deleted)).map Prod.fst ↔ name ∈ unlinkingNames :=
    (by decide : ["timestamp", "deleted", "user_id", "logger", "level", "event"].Perm
      unlinkingNames).mem_iff
  refine ⟨fun scene world address after done => log_of_delete done, event, made, fun settings => ?_,
    nodup_event made, said (by decide) rfl, said (by decide) level, said (by decide) rfl,
    said (by decide) rfl, said (by decide) rfl, said (by decide) rfl, fun name kept => ⟨?_, ?_⟩⟩
  · rw [LogSettings.line_eq, made]
    rfl
  · exact fun free => get?_event_of_free made kept (mt (names name).mp free)
  · exact (keeps_iff plain kept).trans (not_congr (names name))

end Config
end AddressBook
