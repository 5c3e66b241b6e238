/-
**What a node's create operations read and write: entities, callback groups, the node's
registry, and the intra-process manager.**

`node_impl.hpp` creates each entity from the handle an `rmw_create_*` call returns (a null
pointer is a failure), may register it with the intra-process manager of the node's context,
attaches it to a callback group, and counts it. This module holds that data and the primitive
updates the create operations are built from.

* Entities keep the handles the code stores in them; `RmwHandle` is a pointer, `none` the null
  pointer. `intraProcess` is what `setup_intra_process` stored, if it was called.
* `CallbackGroup` (`callback_group.hpp`) and `Node` are identified by their `id`, standing for
  the address of the shared object. A `Node` carries as fields that its groups' ids are distinct
  and that its default group is one of them, so `Node.addToGroup` changes exactly one group.
* The intra-process manager, `CallbackGroup::add_*` and `Node::group_in_node` are not among the
  sources; they are modelled from the spec.
-/

import Mathlib.Data.List.Nodup
import Mathlib.Algebra.Group.Prod

namespace Rclcpp

/-- An rmw handle as the pointer an `rmw_create_*` call returns: `none` is `nullptr`. -/
abbrev RmwHandle := Option Nat

/-- `rmw_qos_profile_t`, of which the create operations read only `depth` themselves. -/
structure QosProfile where
  depth : Nat
deriving DecidableEq, Repr

/-! ### Entities -/

/-- The message memory strategy a subscription is given, `create_default()` when none is. -/
inductive MessageMemoryStrategy
  | createDefault
  | given (id : Nat)
deriving DecidableEq, Repr

/-- `publisher::Publisher` as `create_publisher` builds it. -/
structure Publisher where
  topicName : String
  queueSize : Nat
  publisherHandle : RmwHandle
  intraProcess : Option (Nat × RmwHandle)
deriving DecidableEq, Repr

/-- `subscription::Subscription` as `create_subscription_internal` builds it. -/
structure Subscription where
  topicName : String
  ignoreLocalPublications : Bool
  subscriptionHandle : RmwHandle
  msgMemStrat : MessageMemoryStrategy
  intraProcess : Option (Nat × RmwHandle)
deriving DecidableEq, Repr

/-- `client::Client` as `create_client` builds it. -/
structure Client where
  serviceName : String
  clientHandle : RmwHandle
deriving DecidableEq, Repr

/-- `service::Service` as `create_service` builds it. -/
structure Service where
  serviceName : String
  serviceHandle : RmwHandle
deriving DecidableEq, Repr

/-- An entity that joins a callback group. -/
inductive Entity
  | subscription (sub : Subscription)
  | service (serv : Service)
  | client (cli : Client)
deriving DecidableEq, Repr

/-! ### Callback groups and the node -/

/-- `callback_group::CallbackGroup`: its entity lists. Its type and its `can_be_taken_from` flag
are for the executor, which no modelled function is. -/
structure CallbackGroup where
  id : Nat
  subscriptionPtrs : List Subscription
  servicePtrs : List Service
  clientPtrs : List Client
deriving DecidableEq, Repr

/-- Modelled from the spec: `CallbackGroup::add_subscription`, `add_service` and `add_client`
(`callback_group.cpp`, not among the sources) append the entity to the group's list of its kind. -/
def CallbackGroup.add : Entity → CallbackGroup → CallbackGroup
  | .subscription sub, group => { group with subscriptionPtrs := group.subscriptionPtrs ++ [sub] }
  | .service serv, group => { group with servicePtrs := group.servicePtrs ++ [serv] }
  | .client cli, group => { group with clientPtrs := group.clientPtrs ++ [cli] }

@[simp] theorem CallbackGroup.add_id (entity : Entity) (group : CallbackGroup) :
    (group.add entity).id = group.id := by
  cases entity <;> rfl

/-- Adding `entity` to the group `target` among `groups`. -/
def addToGroups (target : Nat) (entity : Entity) (groups : List CallbackGroup) :
    List CallbackGroup :=
  groups.map fun group => if group.id = target then group.add entity else group

@[simp] theorem addToGroups_ids (target : Nat) (entity : Entity) (groups : List CallbackGroup) :
    (addToGroups target entity groups).map CallbackGroup.id = groups.map CallbackGroup.id := by
  simp only [addToGroups, List.map_map]
  congr 1
  funext group
  by_cases here : group.id = target <;> simp [here]

/-- Adding to a registered group among groups with distinct ids changes that one group, in place,
by appending the entity, and keeps every other group. -/
theorem addToGroups_changes_one {target : Nat} (entity : Entity) {groups : List CallbackGroup}
    (distinct : (groups.map CallbackGroup.id).Nodup) (registered : target ∈ groups.map CallbackGroup.id) :
    ∃ before group after, groups = before ++ group :: after ∧ group.id = target ∧
      addToGroups target entity groups = before ++ group.add entity :: after := by
  obtain ⟨group, member, rfl⟩ := List.mem_map.mp registered
  obtain ⟨before, after, rfl⟩ := List.append_of_mem member
  have others : ∀ other ∈ before ++ after, other.id ≠ group.id := by
    simp only [List.map_append, List.map_cons, List.nodup_append, List.nodup_cons,
      List.disjoint_cons_right, List.mem_map, not_exists, not_and] at distinct
    intro other member same
    rcases List.mem_append.mp member with inBefore | inAfter
    · exact distinct.2.2.1 other inBefore same
    · exact distinct.2.1.1 other inAfter same
  have kept : ∀ part : List CallbackGroup, (∀ other ∈ part, other.id ≠ group.id) →
      part.map (fun other => if other.id = group.id then other.add entity else other) = part :=
    fun part away => by
      conv_rhs => rw [← List.map_id part]
      exact List.map_congr_left fun other member => if_neg (away other member)
  refine ⟨before, group, after, rfl, rfl, ?_⟩
  simp only [addToGroups, List.map_append, List.map_cons, if_pos]
  rw [kept before (fun other member => others other (List.mem_append_left _ member)),
    kept after (fun other member => others other (List.mem_append_right _ member))]

/-- `node::Node`'s registry: its callback groups, with distinct ids and the default group among
them, and its entity counters. -/
structure Node where
  useIntraProcessComms : Bool
  defaultCallbackGroup : Nat
  callbackGroups : List CallbackGroup
  numberOfSubscriptions : Nat
  numberOfServices : Nat
  numberOfClients : Nat
  groupIdsNodup : (callbackGroups.map CallbackGroup.id).Nodup
  defaultRegistered : defaultCallbackGroup ∈ callbackGroups.map CallbackGroup.id

namespace Node

/-- Modelled from the spec: `Node::group_in_node` (`node.cpp`, not among the sources): whether
the group is registered with this node. -/
def groupInNode (node : Node) (group : Nat) : Bool :=
  node.callbackGroups.any fun registered => registered.id == group

/-- `entity` joins the node's group `target`; every other group is untouched. -/
def addToGroup (node : Node) (target : Nat) (entity : Entity) : Node :=
  { node with
    callbackGroups := addToGroups target entity node.callbackGroups
    groupIdsNodup := by simpa using node.groupIdsNodup
    defaultRegistered := by simpa using node.defaultRegistered }

/-- The counter of `entity`'s kind goes up by one (`number_of_subscriptions_++` and the like). -/
def count : Entity → Node → Node
  | .subscription _, node => { node with numberOfSubscriptions := node.numberOfSubscriptions + 1 }
  | .service _, node => { node with numberOfServices := node.numberOfServices + 1 }
  | .client _, node => { node with numberOfClients := node.numberOfClients + 1 }

/-- Modelled from the spec: a node as its constructor (`node.cpp`, not among the sources) leaves
it, holding one callback group, its default, and no entity yet. -/
def new (useIntraProcessComms : Bool) : Node :=
  ⟨useIntraProcessComms, 0, [⟨0, [], [], []⟩], 0, 0, 0, by decide, by decide⟩

/-- The entity counters: subscriptions, services, clients. -/
def counters (node : Node) : Nat × Nat × Nat :=
  (node.numberOfSubscriptions, node.numberOfServices, node.numberOfClients)

/-- The default group is registered with the node. -/
theorem groupInNode_default (node : Node) : node.groupInNode node.defaultCallbackGroup = true := by
  obtain ⟨group, member, same⟩ := List.mem_map.mp node.defaultRegistered
  exact List.any_eq_true.mpr ⟨group, member, by simp [same]⟩

end Node

/-! ### The intra-process manager -/

/-- What the intra-process manager records for a publisher: its topic and the depth of its
ring buffer. -/
structure PublisherRegistration where
  id : Nat
  topicName : String
  bufferSize : Nat
deriving DecidableEq, Repr

/-- What the intra-process manager records for a subscription. -/
structure SubscriptionRegistration where
  id : Nat
  topicName : String
  ignoreLocalPublications : Bool
deriving DecidableEq, Repr

/-- The intra-process manager of a context: a monotonic id counter and its registrations. -/
structure IntraProcessManager where
  nextUniqueId : Nat
  publishers : List PublisherRegistration
  subscriptions : List SubscriptionRegistration
deriving DecidableEq, Repr

namespace IntraProcessManager

/-- Modelled from the spec: `IntraProcessManager::add_publisher` allocates the next id and
records the publisher's topic with a ring buffer of its queue depth. -/
def addPublisher (publisher : Publisher) (ipm : IntraProcessManager) : Nat × IntraProcessManager :=
  (ipm.nextUniqueId,
    { ipm with
      nextUniqueId := ipm.nextUniqueId + 1
      publishers := ipm.publishers ++ [⟨ipm.nextUniqueId, publisher.topicName, publisher.queueSize⟩] })

/-- Modelled from the spec: `IntraProcessManager::add_subscription` allocates the next id and
records the subscription's topic and `ignore_local_publications`. -/
def addSubscription (sub : Subscription) (ipm : IntraProcessManager) : Nat × IntraProcessManager :=
  (ipm.nextUniqueId,
    { ipm with
      nextUniqueId := ipm.nextUniqueId + 1
      subscriptions := ipm.subscriptions ++
        [⟨ipm.nextUniqueId, sub.topicName, sub.ignoreLocalPublications⟩] })

end IntraProcessManager

/-! ### The process a create operation runs in -/

/-- What a create operation reads and writes: the node, its context's intra-process manager,
and the text `rmw_get_error_string_safe()` returns. -/
structure Process where
  node : Node
  ipm : IntraProcessManager
  rmwErrorString : String

/-- A process around `node` whose intra-process manager has registered nothing yet and whose rmw
has reported no error. -/
def Process.ofNode (node : Node) : Process := ⟨node, ⟨0, [], []⟩, ""⟩

/-- The counter an entity's kind adds one to. -/
def Entity.counted : Entity → Nat × Nat × Nat
  | .subscription _ => (1, 0, 0)
  | .service _ => (0, 1, 0)
  | .client _ => (0, 0, 1)

/-- `entity` joins the group `target` and is counted. -/
def Process.attach (target : Nat) (entity : Entity) (process : Process) : Process :=
  { process with node := (process.node.addToGroup target entity).count entity }

namespace Process

variable (target : Nat) (entity : Entity) (process : Process)

@[simp] theorem attach_ipm : (process.attach target entity).ipm = process.ipm := rfl

@[simp] theorem attach_useIntraProcessComms :
    (process.attach target entity).node.useIntraProcessComms = process.node.useIntraProcessComms := by
  cases entity <;> rfl

theorem attach_callbackGroups :
    (process.attach target entity).node.callbackGroups =
      addToGroups target entity process.node.callbackGroups := by
  cases entity <;> rfl

/-- Attaching counts the entity in exactly the counter of its kind. -/
theorem attach_counters :
    (process.attach target entity).node.counters = process.node.counters + entity.counted := by
  cases entity <;> rfl

end Process

end Rclcpp
