import InterfaceReport.Client
import InterfaceReport.Error
import InterfaceReport.Store.Namespace

/-! Requests to clear watermarks, which are messages on a channel of the counters. -/

namespace InterfaceReport

/-- The groups of counters whose watermarks can be cleared. -/
inductive WatermarkGroup where
  | pgHeadroom
  | pgShared
  | qSharedUni
  | qSharedMulti
  | bufferPool
  | headroomPool
  | qSharedAll
deriving DecidableEq

namespace WatermarkGroup

def all : List WatermarkGroup :=
  [.pgHeadroom, .pgShared, .qSharedUni, .qSharedMulti, .bufferPool, .headroomPool, .qSharedAll]

def name : WatermarkGroup → String
  | .pgHeadroom => "pg_headroom"
  | .pgShared => "pg_shared"
  | .qSharedUni => "q_shared_uni"
  | .qSharedMulti => "q_shared_multi"
  | .bufferPool => "buffer_pool"
  | .headroomPool => "headroom_pool"
  | .qSharedAll => "q_shared_all"

def token (group : WatermarkGroup) : String := group.name.map Char.toUpper

def ofName? (text : String) : Option WatermarkGroup := all.find? (·.name == text)

def unknownMessage (text : String) : String := s!"invalid variant: {text}"

/-- The words by which requests name the groups. -/
inductive Spells : WatermarkGroup → String → Prop
  | pgHeadroom : Spells .pgHeadroom "PG_HEADROOM"
  | pgShared : Spells .pgShared "PG_SHARED"
  | qSharedUni : Spells .qSharedUni "Q_SHARED_UNI"
  | qSharedMulti : Spells .qSharedMulti "Q_SHARED_MULTI"
  | bufferPool : Spells .bufferPool "BUFFER_POOL"
  | headroomPool : Spells .headroomPool "HEADROOM_POOL"
  | qSharedAll : Spells .qSharedAll "Q_SHARED_ALL"

theorem Spells.eq_token {group : WatermarkGroup} {word : String} (h : group.Spells word) :
    word = group.token := by
  cases h <;> decide +kernel

theorem spells_token (group : WatermarkGroup) : group.Spells group.token := by
  obtain ⟨word, h⟩ : ∃ word, group.Spells word := by
    cases group <;> exact ⟨_, by constructor⟩
  rwa [← h.eq_token]

theorem ofName?_name (group : WatermarkGroup) : ofName? group.name = some group := by
  cases group <;> decide

end WatermarkGroup

/-- A watermark: those of the user can be cleared apart from the persistent ones. -/
structure Watermark where
  group : WatermarkGroup
  persistent : Bool
deriving DecidableEq

namespace Watermark

/-- The array of class and group that asks to clear the watermark. -/
def payload (w : Watermark) : String :=
  let className := if w.persistent then "PERSISTENT" else "USER"
  s!"[\"{className}\",\"{w.group.token}\"]"

def request (w : Watermark) : Message := ⟨"WATERMARK_CLEAR_REQUEST", w.payload⟩

/-- The request in full, with its class and the word for its group. -/
theorem request_eq (w : Watermark) : ∃ word, w.group.Spells word ∧ w.request =
    ⟨"WATERMARK_CLEAR_REQUEST",
      "[\"" ++ (if w.persistent then "PERSISTENT" else "USER") ++ "\",\"" ++ word ++ "\"]"⟩ := by
  refine ⟨w.group.token, w.group.spells_token, ?_⟩
  simp only [request, payload, toString, String.append_assoc]

def clear (w : Watermark) (counters : Database) : Except StoreError Database :=
  counters.publish w.request

end Watermark

/-- Why the clearing of watermarks stopped. -/
inductive ClearFailure where
  /-- The counters of a namespace could not be opened. -/
  | unopened (ns : Namespace) (source : StoreError)
  /-- The counters of a namespace did not take the request. -/
  | refused (ns : Namespace) (source : StoreError)
deriving DecidableEq

/-- The messages of a failure, and those of its causes. -/
def ClearFailure.messages : ClearFailure → List String
  | .unopened ns source => (Error.storeUnavailable ns.label source).messages
  | .refused _ source => [source.message]

variable {ε : Type}

/-- What came of a namespace's turn: its counters with the request published, or why they did not
get it. -/
structure Contact (ε : Type) where
  ns : Namespace
  result : Except ClearFailure (Connection ε)

namespace Contact

def failure? (c : Contact ε) : Option ClearFailure :=
  match c.result with
  | .ok _ => none
  | .error failure => some failure

end Contact

namespace Watermark

/-- Opens the counters of a namespace and asks to clear a watermark there. -/
def contact (w : Watermark) (open? : Namespace → Except StoreError (Connection ε))
    (ns : Namespace) : Contact ε where
  ns
  result := do
    let connection ← (open? ns).mapError (.unopened ns)
    let database ← (w.clear connection.database).mapError (.refused ns)
    return { connection with database }

/-- Clears a watermark in namespaces one after the other, up to the first that fails. -/
def clearAll (w : Watermark) (open? : Namespace → Except StoreError (Connection ε)) :
    List Namespace → List (Contact ε)
  | [] => []
  | ns :: rest =>
    let contact := w.contact open? ns
    match contact.failure? with
    | some _ => [contact]
    | none => contact :: w.clearAll open? rest

end Watermark
end InterfaceReport
