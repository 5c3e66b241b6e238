/-
**`Node::create_publisher`, `create_subscription_internal`, `create_client` and
`create_service` (`node_impl.hpp`), over every outcome of the rmw calls they make.**

Each operation takes the handles its `rmw_create_*` calls return as arguments (`none` is a null
pointer), so one theorem covers every outcome. A throw keeps what was done before it: the result
is an `EStateM.Result` whose `.error` carries the state at the throw.

* `createPublisher_contract`, `createClient_contract`, `createService_contract` — **the contract
  holds for three of the four.** Either the entity is returned with every handle non-null (the
  `__intra` one too, on an intra-process node), joins exactly the group asked for and is counted
  in exactly its counter (`Process.attach`), or the operation throws and the process is as it
  was.
* `createSubscriptionInternal_intra_returns` — what `create_subscription_internal` does on an
  intra-process node: line 197 tests `subscriber_handle`, which line 175 has already found
  non-null, instead of the `__intra` handle.
* `createSubscriptionInternal_breaks_contract` — so a null `__intra` handle is accepted.
* `sharedPublishCallback_outcome` — the publish callback `create_publisher` hands the
  intra-process manager (lines 76–96): a publish that throws leaves the manager as it was, and
  one that returns stored a non-null message of the publisher's type.
-/

import Rclcpp.Basic
import Rclcpp.Node.Registry
import Mathlib.Tactic.SplitIfs

namespace Rclcpp

/-- The throw after an `rmw_create_*` call returned null: `what` and
`rmw_get_error_string_safe()`. -/
def rmwCreateFailed {α : Type} (what : String) (process : Process) :
    EStateM.Result String Process α :=
  .error ("could not create " ++ what ++ ": " ++ process.rmwErrorString) process

/-- The group assignment (lines 237–247, 279–288, 317–326): the entity joins the group given,
which must be registered with the node, or the default group; then it is counted. -/
def attachToGroup (kind : String) (group : Option Nat) (entity : Entity) :
    EStateM String Process Unit := fun process =>
  match group with
  | some target =>
    if process.node.groupInNode target then .ok () (process.attach target entity)
    else .error ("Cannot create " ++ kind ++ ", group not in node.") process
  | none => .ok () (process.attach process.node.defaultCallbackGroup entity)

/-- `Node::create_publisher` (lines 41–108). -/
def createPublisher (topicName : String) (qosProfile : QosProfile)
    (publisherHandle intraProcessPublisherHandle : RmwHandle) :
    EStateM String Process Publisher := fun process =>
  if publisherHandle.isNone then rmwCreateFailed "publisher" process
  else
    let publisher : Publisher := ⟨topicName, qosProfile.depth, publisherHandle, none⟩
    if process.node.useIntraProcessComms then
      if intraProcessPublisherHandle.isNone then rmwCreateFailed "intra process publisher" process
      else
        let (id, ipm) := process.ipm.addPublisher publisher
        .ok { publisher with intraProcess := some (id, intraProcessPublisherHandle) }
          { process with ipm }
    else .ok publisher process

/-- `Node::create_subscription_internal` (lines 154–249). The check of line 197 is of
`subscriber_handle`, as in the source. -/
def createSubscriptionInternal (topicName : String) (group : Option Nat)
    (ignoreLocalPublications : Bool) (msgMemStrat : Option MessageMemoryStrategy)
    (subscriberHandle intraProcessSubscriberHandle : RmwHandle) :
    EStateM String Process Subscription := fun process =>
  if subscriberHandle.isNone then rmwCreateFailed "subscription" process
  else
    let sub : Subscription :=
      ⟨topicName, ignoreLocalPublications, subscriberHandle, msgMemStrat.getD .createDefault, none⟩
    if process.node.useIntraProcessComms then
      if subscriberHandle.isNone then rmwCreateFailed "intra process subscription" process
      else
        let (id, ipm) := process.ipm.addSubscription sub
        let sub := { sub with intraProcess := some (id, intraProcessSubscriberHandle) }
        thenReturn (attachToGroup "subscription" group (.subscription sub) { process with ipm }) sub
    else thenReturn (attachToGroup "subscription" group (.subscription sub) process) sub

/-- `Node::create_client` (lines 251–291). -/
def createClient (serviceName : String) (group : Option Nat) (clientHandle : RmwHandle) :
    EStateM String Process Client := fun process =>
  if clientHandle.isNone then rmwCreateFailed "client" process
  else
    let cli : Client := ⟨serviceName, clientHandle⟩
    thenReturn (attachToGroup "client" group (.client cli) process) cli

/-- `Node::create_service` (lines 293–328). -/
def createService (serviceName : String) (group : Option Nat) (serviceHandle : RmwHandle) :
    EStateM String Process Service := fun process =>
  if serviceHandle.isNone then rmwCreateFailed "service" process
  else
    let serv : Service := ⟨serviceName, serviceHandle⟩
    thenReturn (attachToGroup "service" group (.service serv) process) serv

/-! ### The contract -/

/-- The group an entity is to join: the one given, which must be registered with the node, or
the node's default group when none is given. -/
def JoinsGroup (node : Node) (group : Option Nat) (target : Nat) : Prop :=
  (group = some target ∧ node.groupInNode target = true) ∨
    (group = none ∧ target = node.defaultCallbackGroup)

/-- The contract of a create operation: it returns the entity with valid handles, attached and
counted as `attached` says, with nothing else changed; or it throws and leaves the process as it
was. -/
def MeetsContract {α : Type} (handlesValid : α → Prop) (attached : α → Process → Prop)
    (before : Process) : EStateM.Result String Process α → Prop
  | .ok value after => handlesValid value ∧ attached value after
  | .error _ after => after = before

/-- An entity attached as asked: it joined exactly one group of the node, the one `JoinsGroup`
names, and was counted, and nothing else changed. -/
def AttachedAsAsked (group : Option Nat) (entity : Entity) (before after : Process) : Prop :=
  ∃ target, JoinsGroup before.node group target ∧ after = before.attach target entity

/-- **The group assignment.** It either attaches the entity to the group asked for, or throws
with the process unchanged. -/
theorem attachToGroup_cases (kind : String) (group : Option Nat) (entity : Entity)
    (process : Process) :
    MeetsContract (fun () => True) (fun () after => AttachedAsAsked group entity process after)
      process (attachToGroup kind group entity process) := by
  cases group with
  | none => exact ⟨trivial, _, .inr ⟨rfl, rfl⟩, rfl⟩
  | some target =>
    simp only [attachToGroup]
    split
    · exact ⟨trivial, _, .inl ⟨rfl, ‹_›⟩, rfl⟩
    · rfl

/-- A statement returning `value` after the group assignment returned it attached as asked. -/
theorem thenReturn_attachToGroup {α : Type} {kind : String} {group : Option Nat}
    {entity : Entity} {process after : Process} {value returnedValue : α}
    (returned : thenReturn (attachToGroup kind group entity process) value = .ok returnedValue after) :
    returnedValue = value ∧ AttachedAsAsked group entity process after := by
  have assigned := attachToGroup_cases kind group entity process
  revert assigned returned
  cases attachToGroup kind group entity process with
  | ok _ attached =>
    intro returned ⟨_, asAsked⟩
    cases returned
    exact ⟨rfl, asAsked⟩
  | error _ _ => intro returned; cases returned

/-- A grouped create operation (`create_client`, `create_service`) meets the contract: the
`rmw` check, then the group assignment. -/
theorem grouped_contract {α : Type} (handle : RmwHandle) (what kind : String) (value : α)
    (handlesValid : α → Prop) (entityOf : α → Entity) (group : Option Nat) (process : Process)
    (valid : handle.isSome → handlesValid value) :
    MeetsContract handlesValid
      (fun value after => AttachedAsAsked group (entityOf value) process after) process
      (if handle.isNone then rmwCreateFailed what process
        else thenReturn (attachToGroup kind group (entityOf value) process) value) := by
  split
  · rfl
  · rename_i present
    have assigned := attachToGroup_cases kind group (entityOf value) process
    revert assigned
    cases attachToGroup kind group (entityOf value) process with
    | ok _ after =>
      exact fun ⟨_, attached⟩ =>
        ⟨valid (Option.ne_none_iff_isSome.mp (by simpa using present)), attached⟩
    | error _ after => exact id

/-- **`create_client` meets the contract**, for every node and every outcome of
`rmw_create_client`. -/
theorem createClient_contract (serviceName : String) (group : Option Nat)
    (clientHandle : RmwHandle) (process : Process) :
    MeetsContract (fun cli : Client => cli.clientHandle.isSome)
      (fun cli after => AttachedAsAsked group (.client cli) process after) process
      ((createClient serviceName group clientHandle).run process) :=
  grouped_contract clientHandle "client" "client" (⟨serviceName, clientHandle⟩ : Client) _ .client
    group process id

/-- **`create_service` meets the contract**, for every node and every outcome of
`rmw_create_service`. -/
theorem createService_contract (serviceName : String) (group : Option Nat)
    (serviceHandle : RmwHandle) (process : Process) :
    MeetsContract (fun serv : Service => serv.serviceHandle.isSome)
      (fun serv after => AttachedAsAsked group (.service serv) process after) process
      ((createService serviceName group serviceHandle).run process) :=
  grouped_contract serviceHandle "service" "service" (⟨serviceName, serviceHandle⟩ : Service) _
    .service group process id

/-- A publisher's handles are valid: its own, and on an intra-process node the `__intra` one,
set up with an id. -/
def Publisher.HandlesValid (useIntraProcessComms : Bool) (publisher : Publisher) : Prop :=
  publisher.publisherHandle.isSome ∧
    (useIntraProcessComms = true →
      ∃ id handle, publisher.intraProcess = some (id, some handle))

/-- **`create_publisher` meets the contract**, for every node and every outcome of both
`rmw_create_publisher` calls: a returned publisher has valid handles and, on an intra-process
node, is registered with the intra-process manager under a fresh id, the node untouched; a throw
leaves the process as it was. -/
theorem createPublisher_contract (topicName : String) (qosProfile : QosProfile)
    (publisherHandle intraProcessPublisherHandle : RmwHandle) (process : Process) :
    MeetsContract (Publisher.HandlesValid process.node.useIntraProcessComms)
      (fun publisher after => after.node = process.node ∧
        (process.node.useIntraProcessComms = false → after = process) ∧
        (process.node.useIntraProcessComms = true →
          publisher.intraProcess.map Prod.fst = some process.ipm.nextUniqueId ∧
          after = { process with ipm := (process.ipm.addPublisher
            ⟨topicName, qosProfile.depth, publisherHandle, none⟩).2 }))
      process ((createPublisher topicName qosProfile publisherHandle intraProcessPublisherHandle).run
        process) := by
  simp only [run_eq_apply, createPublisher]
  split
  · rfl
  · rename_i present
    split
    · rename_i intra
      split
      · rfl
      · rename_i intraPresent
        obtain ⟨handle, rfl⟩ := Option.ne_none_iff_exists'.mp (by simpa using intraPresent)
        exact ⟨⟨Option.ne_none_iff_isSome.mp (by simpa using present), fun _ => ⟨_, handle, rfl⟩⟩,
          rfl, fun off => absurd (off.symm.trans intra) Bool.false_ne_true, fun _ => ⟨rfl, rfl⟩⟩
    · rename_i intra
      exact ⟨⟨Option.ne_none_iff_isSome.mp (by simpa using present),
        fun enabled => absurd enabled intra⟩, rfl, fun _ => rfl, fun enabled => absurd enabled intra⟩

/-! ### `create_subscription_internal` -/

/-- A subscription's handles are valid: its own, and on an intra-process node the `__intra` one,
set up with an id. -/
def Subscription.HandlesValid (useIntraProcessComms : Bool) (sub : Subscription) : Prop :=
  sub.subscriptionHandle.isSome ∧
    (useIntraProcessComms = true → ∃ id handle, sub.intraProcess = some (id, some handle))

/-- **On a node without intra-process comms, `create_subscription_internal` meets the
contract**, for every outcome of `rmw_create_subscription`. -/
theorem createSubscriptionInternal_contract_local (topicName : String) (group : Option Nat)
    (ignoreLocalPublications : Bool) (msgMemStrat : Option MessageMemoryStrategy)
    (subscriberHandle intraProcessSubscriberHandle : RmwHandle) (process : Process)
    (local_ : process.node.useIntraProcessComms = false) :
    MeetsContract (Subscription.HandlesValid false)
      (fun sub after => AttachedAsAsked group (.subscription sub) process after) process
      ((createSubscriptionInternal topicName group ignoreLocalPublications msgMemStrat
        subscriberHandle intraProcessSubscriberHandle).run process) := by
  have grouped := grouped_contract subscriberHandle "subscription" "subscription"
    (⟨topicName, ignoreLocalPublications, subscriberHandle, msgMemStrat.getD .createDefault, none⟩ :
      Subscription) (Subscription.HandlesValid false) .subscription group process
    fun present => ⟨present, fun never => by cases never⟩
  simpa only [run_eq_apply, createSubscriptionInternal, local_, if_false] using grouped

theorem createSubscriptionInternal_contract_local_fresh :
    (Process.ofNode (Node.new false)).node.useIntraProcessComms = false ∧
      MeetsContract (Subscription.HandlesValid false)
        (fun sub after => AttachedAsAsked none (.subscription sub) (Process.ofNode (Node.new false))
          after) (Process.ofNode (Node.new false))
        ((createSubscriptionInternal "chatter" none false none (some 1) none).run
          (Process.ofNode (Node.new false))) :=
  ⟨rfl, createSubscriptionInternal_contract_local _ _ _ _ _ _ _ rfl⟩

/-- On an intra-process node, a subscription that `create_subscription_internal` returns carries
the id the intra-process manager allocated and the `__intra` handle exactly as
`rmw_create_subscription` returned it, null or not, and it is attached as asked to the process
with the registration made. -/
theorem createSubscriptionInternal_intra_returns (topicName : String) (group : Option Nat)
    (ignoreLocalPublications : Bool) (msgMemStrat : Option MessageMemoryStrategy)
    (subscriberHandle intraProcessSubscriberHandle : RmwHandle) (process : Process)
    (intra : process.node.useIntraProcessComms = true) {sub : Subscription} {after : Process}
    (returned : (createSubscriptionInternal topicName group ignoreLocalPublications msgMemStrat
      subscriberHandle intraProcessSubscriberHandle).run process = .ok sub after) :
    sub.subscriptionHandle.isSome ∧
      sub.intraProcess = some (process.ipm.nextUniqueId, intraProcessSubscriberHandle) ∧
      AttachedAsAsked group (.subscription sub)
        { process with ipm := (process.ipm.addSubscription
          ⟨topicName, ignoreLocalPublications, subscriberHandle, msgMemStrat.getD .createDefault,
            none⟩).2 } after := by
  simp only [run_eq_apply, createSubscriptionInternal, intra, if_true] at returned
  split at returned
  · cases returned
  · rename_i present
    obtain ⟨rfl, asAsked⟩ := thenReturn_attachToGroup returned
    exact ⟨Option.ne_none_iff_isSome.mp (by simpa using present), rfl, asAsked⟩

theorem createSubscriptionInternal_intra_returns_fresh :
    ∃ sub after,
      (Process.ofNode (Node.new true)).node.useIntraProcessComms = true ∧
      (createSubscriptionInternal "chatter" none false none (some 1) (some 2)).run
          (Process.ofNode (Node.new true)) = .ok sub after ∧
      sub.subscriptionHandle.isSome ∧
      sub.intraProcess = some ((Process.ofNode (Node.new true)).ipm.nextUniqueId, some 2) ∧
      AttachedAsAsked none (.subscription sub)
        { Process.ofNode (Node.new true) with
          ipm := ((Process.ofNode (Node.new true)).ipm.addSubscription
            ⟨"chatter", false, some 1, MessageMemoryStrategy.createDefault, none⟩).2 } after :=
  ⟨_, _, rfl, rfl, createSubscriptionInternal_intra_returns "chatter" none false none (some 1) (some 2)
    (Process.ofNode (Node.new true)) rfl rfl⟩

/-- **`create_subscription_internal` breaks the contract on an intra-process node.** With the
default group and `rmw_create_subscription` returning a handle for the topic but null for
`topic__intra`, it returns a subscription whose `__intra` handle is null, registered with the
intra-process manager and counted: line 197 tests `subscriber_handle` instead. -/
theorem createSubscriptionInternal_breaks_contract :
    ∃ sub after,
      (createSubscriptionInternal "chatter" none false none (some 1) none).run
          (Process.ofNode (Node.new true)) = .ok sub after ∧
        ¬ Subscription.HandlesValid true sub ∧ sub.intraProcess = some (0, none) ∧
        after.ipm.subscriptions = [⟨0, "chatter", false⟩] ∧ after.node.numberOfSubscriptions = 1 := by
  refine ⟨_, _, rfl, fun ⟨_, intraValid⟩ => ?_, rfl, rfl, rfl⟩
  obtain ⟨_, _, same⟩ := intraValid rfl
  cases same

/-! ### The intra-process callbacks

On an intra-process node, `create_publisher` gives `setup_intra_process` a publish callback
(lines 76–96), and `create_subscription_internal` gives it a take callback and a publisher check
(lines 210–230). They run later and hold only a weak pointer to the intra-process manager: each
locks it first and throws once the manager is destroyed. The manager's own operations are not
among the sources; the callbacks take them as arguments. -/

/-- A `std::type_info`, by its `name()`. -/
structure TypeInfo where
  name : String
deriving DecidableEq, Repr

section Callbacks

variable {Manager Message : Type}

/-- `auto ipm = weak_ipm.lock(); if (!ipm) throw std::runtime_error(...)`, then `body` on the
manager. The state is what `lock()` finds: `none` once the manager is destroyed. -/
def withManager {α : Type} (what : String) (body : Manager → EStateM.Result String Manager α) :
    EStateM String (Option Manager) α := fun manager =>
  match manager with
  | none =>
    .error ("intra process " ++ what ++ " called after destruction of intra process manager") none
  | some ipm =>
    match body ipm with
    | .ok value after => .ok value (some after)
    | .error error after => .error error (some after)

/-- The publish callback of `create_publisher` (lines 76–96), for a publisher whose message type
is `messageType`. `store` is `IntraProcessManager::store_intra_process_message`; `msg` is `none`
for a null pointer. -/
def sharedPublishCallback (store : Nat → Message → Manager → Nat × Manager)
    (messageType : TypeInfo) (publisherId : Nat) (msg : Option Message) (typeInfo : TypeInfo) :
    EStateM String (Option Manager) Nat :=
  withManager "publish" fun ipm =>
    match msg with
    | none => .error "cannot publisher msg which is a null pointer" ipm
    | some message =>
      if messageType ≠ typeInfo then
        .error ("published type '" ++ typeInfo.name ++ "' is incompatible from the publisher type '" ++
          messageType.name ++ "'") ipm
      else
        let (messageSeq, stored) := store publisherId message ipm
        .ok messageSeq stored

/-- The take callback of `create_subscription_internal` (lines 210–222). `take` is
`IntraProcessManager::take_intra_process_message`, which leaves in `message` what it took, or
null. -/
def takeCallback (take : Nat → Nat → Nat → Manager → Option Message × Manager)
    (publisherId messageSequence subscriptionId : Nat) :
    EStateM String (Option Manager) (Option Message) :=
  withManager "take" fun ipm =>
    let (message, taken) := take publisherId messageSequence subscriptionId ipm
    .ok message taken

/-- The publisher check of `create_subscription_internal` (lines 223–230).
`matchesAnyPublishers` is `IntraProcessManager::matches_any_publishers`. -/
def publisherCheckCallback {Gid : Type} (matchesAnyPublishers : Gid → Manager → Bool)
    (senderGid : Gid) : EStateM String (Option Manager) Bool :=
  withManager "publisher check" fun ipm => .ok (matchesAnyPublishers senderGid ipm) ipm

/-- **What a publish does.** A publish that throws leaves the manager as it was. One that returns
found the manager alive and the message non-null and of the publisher's type, stored it under the
publisher's id, and returns the sequence number the manager gave it. -/
theorem sharedPublishCallback_outcome (store : Nat → Message → Manager → Nat × Manager)
    (messageType : TypeInfo) (publisherId : Nat) (msg : Option Message) (typeInfo : TypeInfo)
    (manager : Option Manager) :
    (∀ error after, (sharedPublishCallback store messageType publisherId msg typeInfo).run manager =
      .error error after → after = manager) ∧
    ∀ messageSeq after,
      (sharedPublishCallback store messageType publisherId msg typeInfo).run manager =
        .ok messageSeq after →
      ∃ ipm message, manager = some ipm ∧ msg = some message ∧ typeInfo = messageType ∧
        messageSeq = (store publisherId message ipm).1 ∧
        after = some (store publisherId message ipm).2 := by
  cases manager <;> cases msg <;> by_cases same : messageType = typeInfo <;>
    simp [run_eq_apply, sharedPublishCallback, withManager, same, eq_comm]

end Callbacks

end Rclcpp
