import Collabo.ConnectionEntries
import Collabo.Library.LockTrace

/-!
# The lock of the handlers

Each handler takes `sharedMtx` in a scope of its own, `onMsgPtr` in shared mode
and the two others exclusively. MODE gives it back and takes it exclusively.
`terminate()` runs `onClosePtr` on the same thread, inside the handler that
called it. What the host and the encoder do inside a handler leaves this lock
alone.
-/

namespace Collabo.LockRequests

open UniqueTable PartialRuns LockTrace Collabo.CString Collabo.MySQLConnector Collabo.ClientTable
  Collabo.EncoderSession Collabo.MediaStream Collabo.CollaboServer Collabo.ServerSteps
  Collabo.ConnectionEntries

set_option autoImplicit false

/-- What a handler does to the lock, and how it ends if every request is granted. -/
structure Traced where
  ops : List LockOp
  handled : Handled

def unlocked (handled : Handled) : Traced where
  ops := []
  handled := handled

/-- A scope with a lock guard, which an exception leaves as a return does. -/
def guarded (hold : Hold) (inner : Traced) : Traced where
  ops := holding hold inner.ops
  handled := inner.handled

def Traced.andThen (first : Traced) (next : Server → Traced) : Traced :=
  match first.handled with
  | .returns server => { ops := first.ops ++ (next server).ops, handled := (next server).handled }
  | .escapes server => { ops := first.ops, handled := .escapes server }
  | .undefined fault => { ops := first.ops, handled := .undefined fault }

def onOpenPtr (server : Server) (ws : WebSocket) (lib : Libav) : Traced :=
  guarded .exclusive (unlocked (.returns (CollaboServer.onOpenPtr server ws lib)))

def onClosePtr (server : Server) (ws : WebSocket) (lib : Libav) : Traced :=
  guarded .exclusive (unlocked (CollaboServer.onClosePtr server ws lib))

def terminate (server : Server) (ws : WebSocket) (lib : Libav) : Traced :=
  onClosePtr
    { server with
      sockets := server.sockets.filter fun other => other ≠ ws
      accepted := server.accepted.filter fun other => other ≠ ws } ws lib

def onSetting (server : Server) (client : Client) (json : Json) (dbCall : DbCall) (lib : Libav) :
    Traced :=
  match json.text "mcode", json.text "mscode", json.text "custom", json.text "name" with
  | some mcode, some mscode, some custom, some name =>
      match isSuited server.db dbCall (cStr mcode) (cStr mscode) client.authority client.chief
          client.role with
      | .throws => unlocked (.escapes server)
      | .undefined fault => unlocked (.undefined fault)
      | .done suited =>
          if suited.result then
            let info : Client :=
              { ws := client.ws
                chief := suited.checkChief
                authority := suited.checkAuth
                role := suited.role
                mcode := mcode
                mscode := mscode
                custom := custom
                name := name }
            match server.clientList.find mcode with
            | none => unlocked (logIn client info server)
            | some other =>
                (terminate server other.ws lib).andThen fun cleared =>
                  unlocked (logIn client info cleared)
          else terminate server client.ws lib
  | _, _, _, _ => unlocked (.escapes server)

def released (inner : Traced) : Traced where
  ops := inner.ops ++ [.release]
  handled := inner.handled

/-- The inner guard has the name of the outer one, which owns nothing any more. -/
def onMode (server : Server) (client : Client) (json : Json) (lib : Libav) : Traced where
  ops :=
    if (json.text "mode").isSome ∧ client.role ≠ -1 ∧ client.chief then
      .release :: holding .exclusive []
    else [.release]
  handled := CollaboServer.onMode server client json lib

def onIdentifier (server : Server) (client : Client) (json : Json) (dbCall : DbCall) (lib : Libav)
    (identifier : Int) : Traced :=
  if identifier = 4 then released (onSetting server client json dbCall lib)
  else if identifier = 5 then onMode server client json lib
  else released (unlocked (CollaboServer.onIdentifier server client json dbCall lib identifier))

def onMsgPtr (server : Server) (ws : WebSocket) (message : Option Json) (dbCall : DbCall)
    (lib : Libav) : Traced :=
  let inner :=
    match findWs server.clientList ws with
    | none => released (unlocked (.undefined .noEntry))
    | some client =>
        match message with
        | none => released (unlocked (.escapes server))
        | some json =>
            match json.int "identifier" with
            | none => released (unlocked (.escapes server))
            | some identifier => onIdentifier server client json dbCall lib identifier
  { ops := .request .shared :: inner.ops, handled := inner.handled }

def traced (server : Server) : ServerEvent → Traced
  | .opens ws lib => onOpenPtr server ws lib
  | .messages ws message dbCall lib => onMsgPtr server ws message dbCall lib
  | .closes ws lib => terminate server ws lib
  | .packet _ => unlocked (.returns server)
  | .resizes _ _ _ => unlocked (.returns server)
  | .hostChanges _ => unlocked (.returns server)
  | .databaseChanges _ => unlocked (.returns server)

/-- The thread never asks for the lock exclusively while it holds it. -/
def NoSelfDeadlock (server : Server) (event : ServerEvent) : Prop :=
  NeverWaitsForItself [] (traced server event).ops

def answerOf (server : Server) (client : Client) (json : Json) (dbCall : DbCall) :
    Option (ByteString × Suited) :=
  match json.text "mcode", json.text "mscode", json.text "custom", json.text "name" with
  | some mcode, some mscode, some _, some _ =>
      match isSuited server.db dbCall (cStr mcode) (cStr mscode) client.authority client.chief
          client.role with
      | .throws => none
      | .undefined _ => none
      | .done suited => some (mcode, suited)
  | _, _, _, _ => none

/-- The client is accepted under an `mcode` that no entry has. -/
def Enters (server : Server) (answer : ByteString × Suited) : Prop :=
  answer.2.result = true ∧ server.clientList.find answer.1 = none

/-- Each SETTING that the database answers is accepted, with an `mcode` that no
entry has. -/
def ClosesNobody (server : Server) : ServerEvent → Prop
  | .messages ws message dbCall _ =>
      ∀ client json answer, findWs server.clientList ws = some client → message = some json →
        json.int "identifier" = some 4 → answerOf server client json dbCall = some answer →
        Enters server answer
  | .opens _ _ => True
  | .closes _ _ => True
  | .packet _ => True
  | .resizes _ _ _ => True
  | .hostChanges _ => True
  | .databaseChanges _ => True

section Settings

variable {server : Server} {client : Client} {json : Json} {dbCall : DbCall} {lib : Libav}

theorem and_then_handled (first : Traced) (next : Server → Traced) :
    (first.andThen next).handled = first.handled.andThen fun server => (next server).handled := by
  unfold Traced.andThen Handled.andThen
  cases first.handled with
  | returns server => rfl
  | escapes server => rfl
  | undefined fault => rfl

structure SettingDone (server : Server) (answer : Option (ByteString × Suited)) (plain : Handled)
    (result : Traced) : Prop where
  handled : result.handled = plain
  ops : (∀ known, answer = some known → Enters server known) ∧ result.ops = [] ∨
    (∃ known, answer = some known ∧ ¬Enters server known) ∧ result.ops = holding .exclusive []

theorem terminate_and_then_ops (server : Server) (ws : WebSocket) (lib : Libav)
    (next : Server → Handled) :
    ((terminate server ws lib).andThen fun cleared => unlocked (next cleared)).ops =
      holding .exclusive [] := by
  unfold Traced.andThen
  cases (terminate server ws lib).handled with
  | returns server => rfl
  | escapes server => rfl
  | undefined fault => rfl

theorem on_setting_done :
    SettingDone server (answerOf server client json dbCall)
      (CollaboServer.onSetting server client json dbCall lib)
      (onSetting server client json dbCall lib) := by
  have unanswered : ∀ handled, SettingDone server none handled (unlocked handled) := by
    intro handled
    refine ⟨rfl, .inl ⟨?_, rfl⟩⟩
    intro known missing
    cases missing
  unfold answerOf onSetting CollaboServer.onSetting
  cases json.text "mcode" with
  | none => exact unanswered _
  | some mcode =>
    cases json.text "mscode" with
    | none => exact unanswered _
    | some mscode =>
      cases json.text "custom" with
      | none => exact unanswered _
      | some custom =>
        cases json.text "name" with
        | none => exact unanswered _
        | some name =>
          dsimp only
          cases isSuited server.db dbCall (cStr mcode) (cStr mscode) client.authority client.chief
              client.role with
          | throws => exact unanswered _
          | undefined fault => exact unanswered _
          | done suited =>
            dsimp only
            cases result : suited.result with
            | false =>
                refine ⟨rfl, .inr ⟨⟨_, rfl, ?_⟩, rfl⟩⟩
                rintro ⟨accepted, -⟩
                rw [result] at accepted
                cases accepted
            | true =>
                simp only [if_true]
                cases taken : server.clientList.find mcode with
                | none =>
                    refine ⟨rfl, .inl ⟨?_, rfl⟩⟩
                    rintro known same
                    rw [← Option.some.inj same]
                    exact ⟨result, taken⟩
                | some other =>
                    refine ⟨and_then_handled _ _, .inr ⟨⟨_, rfl, ?_⟩, ?_⟩⟩
                    · rintro ⟨-, free⟩
                      rw [taken] at free
                      cases free
                    · exact terminate_and_then_ops _ _ _ _

theorem on_identifier_handled (identifier : Int) :
    (onIdentifier server client json dbCall lib identifier).handled =
      CollaboServer.onIdentifier server client json dbCall lib identifier := by
  unfold onIdentifier
  split_ifs with isSetting isMode
  · rw [isSetting]
    exact on_setting_done.handled
  · rw [isMode]
    rfl
  · rfl

/-- Apart from the lock the handlers are those of the server. -/
theorem traced_handled (server : Server) (event : ServerEvent) :
    (traced server event).handled = handled server event := by
  cases event with
  | messages ws message dbCall lib =>
      simp only [traced, handled, onMsgPtr, CollaboServer.onMsgPtr]
      cases findWs server.clientList ws with
      | none => rfl
      | some client =>
        cases message with
        | none => rfl
        | some json =>
          dsimp only
          cases json.int "identifier" with
          | none => rfl
          | some identifier => exact on_identifier_handled identifier
  | opens ws lib => rfl
  | closes ws lib => rfl
  | packet bytes => rfl
  | resizes width height lib => rfl
  | hostChanges host => rfl
  | databaseChanges db => rfl

end Settings

section Requests

variable {server : Server} {client : Client} {json : Json} {dbCall : DbCall} {lib : Libav}

/-- The scope of `onMsgPtr` is entered with nothing held, so `onClosePtr` inside
it waits for the thread it runs on. -/
theorem setting_waits_iff :
    NeverWaitsForItself [.shared] (released (onSetting server client json dbCall lib)).ops ↔
      ∀ answer, answerOf server client json dbCall = some answer → Enters server answer := by
  have settled := @on_setting_done server client json dbCall lib
  simp only [released, never_waits_append]
  rcases settled.ops with ⟨enters, none⟩ | ⟨⟨answer, known, closes⟩, closing⟩
  · rw [none]
    exact iff_of_true ⟨trivial, trivial⟩ enters
  · rw [closing, never_waits_holding_exclusive]
    apply iff_of_false
    · rintro ⟨⟨free, -⟩, -⟩
      cases free
    · intro enters
      exact closes (enters answer known)

theorem mode_never_waits : NeverWaitsForItself [.shared] (onMode server client json lib).ops := by
  unfold onMode
  dsimp only
  split_ifs
  · exact (never_waits_holding_exclusive [] []).mpr ⟨rfl, trivial⟩
  · trivial

theorem identifier_waits_iff (identifier : Int) :
    NeverWaitsForItself [.shared] (onIdentifier server client json dbCall lib identifier).ops ↔
      (identifier = 4 →
        ∀ answer, answerOf server client json dbCall = some answer → Enters server answer) := by
  unfold onIdentifier
  split_ifs with isSetting isMode
  · rw [setting_waits_iff]
    exact ⟨fun enters _ => enters, fun enters => enters isSetting⟩
  · exact iff_of_true mode_never_waits (fun same => absurd same isSetting)
  · exact iff_of_true trivial (fun same => absurd same isSetting)

theorem message_waits_iff {ws : WebSocket} {message : Option Json} :
    NeverWaitsForItself [] (onMsgPtr server ws message dbCall lib).ops ↔
      ClosesNobody server (.messages ws message dbCall lib) := by
  simp only [onMsgPtr, NeverWaitsForItself, ClosesNobody]
  cases findWs server.clientList ws with
  | none => simp [released, unlocked, NeverWaitsForItself]
  | some client =>
    cases message with
    | none => simp [released, unlocked, NeverWaitsForItself]
    | some json =>
      dsimp only
      cases field : json.int "identifier" with
      | none =>
          apply iff_of_true trivial
          intro other otherJson answer _ sameJson same
          rw [← Option.some.inj sameJson, field] at same
          cases same
      | some identifier =>
          dsimp only
          rw [identifier_waits_iff]
          constructor
          · intro enters other otherJson answer sameClient sameJson same known
            rw [← Option.some.inj sameJson, field] at same
            rw [← Option.some.inj sameClient, ← Option.some.inj sameJson] at known
            exact enters (Option.some.inj same) answer known
          · intro enters isSetting answer known
            rw [isSetting] at field
            exact enters client json answer rfl rfl field known

theorem identifier_releases (identifier : Int) :
    heldAfter [.shared] (onIdentifier server client json dbCall lib identifier).ops = [] := by
  unfold onIdentifier
  split_ifs
  · have settled := @on_setting_done server client json dbCall lib
    simp only [released, held_after_append]
    rcases settled.ops with ⟨-, none⟩ | ⟨-, closing⟩
    · rw [none]
      rfl
    · rw [closing, held_after_holding rfl]
      rfl
  · unfold onMode
    dsimp only
    split_ifs
    · rfl
    · rfl
  · rfl

theorem message_releases {ws : WebSocket} {message : Option Json} :
    heldAfter [] (onMsgPtr server ws message dbCall lib).ops = [] := by
  simp only [onMsgPtr, heldAfter]
  cases findWs server.clientList ws with
  | none => rfl
  | some client =>
    cases message with
    | none => rfl
    | some json =>
      dsimp only
      cases json.int "identifier" with
      | none => rfl
      | some identifier => exact identifier_releases identifier

theorem handlers_release (server : Server) (event : ServerEvent) :
    heldAfter [] (traced server event).ops = [] := by
  cases event with
  | messages ws message dbCall lib => exact message_releases
  | opens ws lib => rfl
  | closes ws lib => rfl
  | packet bytes => rfl
  | resizes width height lib => rfl
  | hostChanges host => rfl
  | databaseChanges db => rfl

theorem no_self_deadlock_iff (server : Server) (event : ServerEvent) :
    NoSelfDeadlock server event ↔ ClosesNobody server event := by
  cases event with
  | messages ws message dbCall lib => exact message_waits_iff
  | opens ws lib => exact iff_of_true ⟨rfl, trivial⟩ trivial
  | closes ws lib => exact iff_of_true ⟨rfl, trivial⟩ trivial
  | packet bytes => exact iff_of_true trivial trivial
  | resizes width height lib => exact iff_of_true trivial trivial
  | hostChanges host => exact iff_of_true trivial trivial
  | databaseChanges db => exact iff_of_true trivial trivial

end Requests

/-- For every sequence of events, no handler asks for the lock exclusively while
its thread holds it exactly when no SETTING closes a connection. -/
theorem no_self_deadlock_along_iff (db : Database) (host : ClbContext) (eCtx : EncoderContext)
    (audioBytes : Int) (events : List ServerEvent) :
    Along step NoSelfDeadlock (startServer db host eCtx audioBytes) events ↔
      Along step ClosesNobody (startServer db host eCtx audioBytes) events := by
  apply along_iff_of_invariant (fun _ _ => True) (fun _ => True)
  · intro server event _ _
    exact no_self_deadlock_iff server event
  · intro _ _ _ _ _ _ _
    trivial
  · trivial
  · exact along_of_forall (fun _ _ => trivial) events

def strangerLogsIn : List ServerEvent := [opensEvent 1, settingEvent 1 "z"]

/-- The refusal closes the connection inside the scope of the message. -/
theorem refused_setting_waits_for_itself :
    (traced (after step sampleServer [opensEvent 1]) (settingEvent 1 "z")).ops =
        [.request .shared, .request .exclusive, .release, .release] ∧
      ¬Along step NoSelfDeadlock sampleServer strangerLogsIn := by
  refine ⟨rfl, ?_⟩
  intro along
  have waits := (along.2 _ rfl).1
  exact absurd waits.1 (by decide)

end Collabo.LockRequests
