/-
**A node's registry over every sequence of create calls.**

A node is built once and then given publishers, subscriptions, clients and services one call at a
time; each call returns, or throws and the caller goes on. `createAll` runs such a sequence, and
`Consistent` is what it keeps:

* the node's counters (`number_of_subscriptions_` and the like) are exactly the entities its
  callback groups hold, by kind (`groupCounts_addToGroups`: attaching to a registered group adds
  one entity to one group);
* the ids the intra-process manager has handed out are distinct and below its next id;
* on an intra-process node, every subscription in a group carries an id under which the
  intra-process manager registered it with its topic; on any other node, none.

* `consistent_after` — **one call**, whatever its arguments and whatever `rmw` returns.
* `createAll_consistent` — **every sequence of calls**, from any consistent process, in particular
  from a new node.

What a call throws is data too: `createCall_throws_kind` says that every message names the kind
of entity being created, and `createSubscriptionInternal_throws` that the message of lines 199–200
is never thrown, because the check guarding it repeats the one of line 175.
-/

import Rclcpp.Node.Create
import Mathlib.Tactic.Abel

namespace Rclcpp

/-! ### What the groups hold -/

/-- The entities a group holds, by kind: subscriptions, services, clients. -/
def CallbackGroup.counts (group : CallbackGroup) : Nat × Nat × Nat :=
  (group.subscriptionPtrs.length, group.servicePtrs.length, group.clientPtrs.length)

/-- The entities a node's groups hold, by kind. -/
def groupCounts : List CallbackGroup → Nat × Nat × Nat
  | [] => (0, 0, 0)
  | group :: groups => group.counts + groupCounts groups

theorem CallbackGroup.counts_add (entity : Entity) (group : CallbackGroup) :
    (group.add entity).counts = group.counts + entity.counted := by
  cases entity <;> simp [add, counts, Entity.counted]

theorem groupCounts_append (before after : List CallbackGroup) :
    groupCounts (before ++ after) = groupCounts before + groupCounts after := by
  induction before with
  | nil => simp [groupCounts]
  | cons group before ih => rw [List.cons_append, groupCounts, groupCounts, ih, add_assoc]

/-- Attaching to a registered group among groups with distinct ids adds the entity to the counts
of its kind. -/
theorem groupCounts_addToGroups {target : Nat} (entity : Entity) {groups : List CallbackGroup}
    (distinct : (groups.map CallbackGroup.id).Nodup)
    (registered : target ∈ groups.map CallbackGroup.id) :
    groupCounts (addToGroups target entity groups) = groupCounts groups + entity.counted := by
  obtain ⟨before, group, after, rfl, -, added⟩ := addToGroups_changes_one entity distinct registered
  rw [added, groupCounts_append, groupCounts_append]
  simp only [groupCounts, CallbackGroup.counts_add]
  abel

/-- A subscription in a group after an attach was there before, or is the one attached. -/
theorem mem_subscriptionPtrs_addToGroups {target : Nat} {entity : Entity}
    {groups : List CallbackGroup} {group : CallbackGroup} {sub : Subscription}
    (member : group ∈ addToGroups target entity groups) (held : sub ∈ group.subscriptionPtrs) :
    (∃ old ∈ groups, sub ∈ old.subscriptionPtrs) ∨ entity = .subscription sub := by
  obtain ⟨old, oldMember, rfl⟩ := List.mem_map.mp member
  split at held
  · cases entity with
    | subscription added =>
      rcases List.mem_append.mp held with before | new
      · exact .inl ⟨old, oldMember, before⟩
      · exact .inr (by rw [List.mem_singleton.mp new])
    | service _ | client _ => exact .inl ⟨old, oldMember, held⟩
  · exact .inl ⟨old, oldMember, held⟩

/-! ### The invariant -/

/-- The ids the intra-process manager has handed out, to publishers and to subscriptions. -/
def IntraProcessManager.ids (ipm : IntraProcessManager) : List Nat :=
  ipm.publishers.map PublisherRegistration.id ++ ipm.subscriptions.map SubscriptionRegistration.id

/-- A subscription as the node's kind of comms requires: registered with the intra-process
manager under the id it carries, or carrying none. -/
def IntraRegistered (process : Process) (sub : Subscription) : Prop :=
  if process.node.useIntraProcessComms then
    ∃ id handle, sub.intraProcess = some (id, handle) ∧
      ⟨id, sub.topicName, sub.ignoreLocalPublications⟩ ∈ process.ipm.subscriptions
  else sub.intraProcess = none

/-- What every sequence of create calls keeps. -/
structure Consistent (process : Process) : Prop where
  counted : process.node.counters = groupCounts process.node.callbackGroups
  idsBelow : ∀ id ∈ process.ipm.ids, id < process.ipm.nextUniqueId
  idsNodup : process.ipm.ids.Nodup
  subscriptionsRegistered : ∀ group ∈ process.node.callbackGroups,
    ∀ sub ∈ group.subscriptionPtrs, IntraRegistered process sub

theorem Node.mem_ids_of_groupInNode {node : Node} {target : Nat}
    (registered : node.groupInNode target = true) :
    target ∈ node.callbackGroups.map CallbackGroup.id := by
  obtain ⟨group, member, same⟩ := List.any_eq_true.mp registered
  exact List.mem_map.mpr ⟨group, member, beq_iff_eq.mp same⟩

section Consistent

variable {process : Process}

/-- An attach to a registered group keeps `Consistent`, when a subscription it attaches is
registered as the node's comms require. -/
theorem Consistent.attach (consistent : Consistent process) {target : Nat} {entity : Entity}
    (registered : process.node.groupInNode target = true)
    (entityOk : ∀ sub, entity = .subscription sub → IntraRegistered process sub) :
    Consistent (process.attach target entity) := by
  have sameKind : ∀ sub, IntraRegistered (process.attach target entity) sub ↔
      IntraRegistered process sub := fun sub => by
    simp only [IntraRegistered, Process.attach_useIntraProcessComms, Process.attach_ipm]
  refine ⟨?_, consistent.idsBelow, consistent.idsNodup, fun group member sub held => ?_⟩
  · rw [Process.attach_counters, Process.attach_callbackGroups, consistent.counted,
      groupCounts_addToGroups _ process.node.groupIdsNodup (Node.mem_ids_of_groupInNode registered)]
  · rw [Process.attach_callbackGroups] at member
    rw [sameKind]
    rcases mem_subscriptionPtrs_addToGroups member held with ⟨old, oldMember, oldHeld⟩ | attached
    · exact consistent.subscriptionsRegistered old oldMember sub oldHeld
    · exact entityOk sub attached

/-- The group assignment keeps `Consistent`, whether it attaches or throws. -/
theorem Consistent.assign (consistent : Consistent process) (kind : String)
    (group : Option Nat) {entity : Entity}
    (entityOk : ∀ sub, entity = .subscription sub → IntraRegistered process sub) :
    Consistent (stateAfter (attachToGroup kind group entity process)) := by
  have assigned := attachToGroup_cases kind group entity process
  revert assigned
  cases attachToGroup kind group entity process with
  | ok _ after =>
    rintro ⟨-, target, joins, rfl⟩
    have registered : process.node.groupInNode target = true := by
      rcases joins with ⟨-, given⟩ | ⟨-, rfl⟩
      · exact given
      · exact process.node.groupInNode_default
    exact consistent.attach registered entityOk
  | error _ after => rintro rfl; exact consistent

/-- A fresh id joins the ids handed out, distinct and below the next one. -/
theorem ids_fresh {handedOut : List Nat} {next : Nat} (below : ∀ id ∈ handedOut, id < next)
    (distinct : handedOut.Nodup) :
    (∀ id ∈ next :: handedOut, id < next + 1) ∧ (next :: handedOut).Nodup :=
  ⟨fun id member => by
    rcases List.mem_cons.mp member with rfl | old
    · omega
    · exact Nat.lt_succ_of_lt (below id old),
  List.nodup_cons.mpr ⟨fun member => (below next member).false, distinct⟩⟩

/-- Registering a publisher keeps `Consistent`. -/
theorem Consistent.addPublisher (consistent : Consistent process) (publisher : Publisher) :
    Consistent { process with ipm := (process.ipm.addPublisher publisher).2 } := by
  obtain ⟨below, distinct⟩ := ids_fresh consistent.idsBelow consistent.idsNodup
  have perm : (process.ipm.addPublisher publisher).2.ids.Perm
      (process.ipm.nextUniqueId :: process.ipm.ids) := by
    simp [IntraProcessManager.addPublisher, IntraProcessManager.ids]
  exact ⟨consistent.counted, fun id member => below id (perm.subset member),
    perm.nodup_iff.mpr distinct, consistent.subscriptionsRegistered⟩

/-- Registering a subscription keeps `Consistent`, and on an intra-process node the subscription
set up with the id it was given is registered. -/
theorem Consistent.addSubscription (consistent : Consistent process) (sub : Subscription)
    (handle : RmwHandle) :
    Consistent { process with ipm := (process.ipm.addSubscription sub).2 } ∧
      (process.node.useIntraProcessComms = true →
        IntraRegistered { process with ipm := (process.ipm.addSubscription sub).2 }
          { sub with intraProcess := some ((process.ipm.addSubscription sub).1, handle) }) := by
  obtain ⟨below, distinct⟩ := ids_fresh consistent.idsBelow consistent.idsNodup
  have perm : (process.ipm.addSubscription sub).2.ids.Perm
      (process.ipm.nextUniqueId :: process.ipm.ids) := by
    simp only [IntraProcessManager.addSubscription, IntraProcessManager.ids, List.map_append,
      List.map_cons, List.map_nil, ← List.append_assoc]
    exact List.perm_append_singleton _ _
  have grown : ∀ other, IntraRegistered process other →
      IntraRegistered { process with ipm := (process.ipm.addSubscription sub).2 } other :=
    fun other registered => by
      unfold IntraRegistered at registered ⊢
      dsimp only
      split at registered
      · rename_i intra
        obtain ⟨id, handle, carried, member⟩ := registered
        rw [if_pos intra]
        exact ⟨id, handle, carried, List.mem_append_left _ member⟩
      · rename_i intra
        rw [if_neg intra]
        exact registered
  refine ⟨⟨consistent.counted, fun id member => below id (perm.subset member),
    perm.nodup_iff.mpr distinct, fun group member other held =>
      grown other (consistent.subscriptionsRegistered group member other held)⟩, fun intra => ?_⟩
  simp only [IntraRegistered, intra, if_true]
  exact ⟨_, handle, rfl, List.mem_append_right _ (List.mem_singleton_self _)⟩

end Consistent

/-! ### Sequences of calls -/

/-- A create call of `node_impl.hpp`, with its arguments and what its `rmw_create_*` calls
return. `create_subscription` and `create_subscription_with_unique_ptr_callback` only wrap the
callback and call `create_subscription_internal`. -/
inductive CreateCall
  | publisher (topicName : String) (qosProfile : QosProfile)
      (publisherHandle intraProcessPublisherHandle : RmwHandle)
  | subscription (topicName : String) (group : Option Nat) (ignoreLocalPublications : Bool)
      (msgMemStrat : Option MessageMemoryStrategy)
      (subscriberHandle intraProcessSubscriberHandle : RmwHandle)
  | client (serviceName : String) (group : Option Nat) (clientHandle : RmwHandle)
  | service (serviceName : String) (group : Option Nat) (serviceHandle : RmwHandle)

/-- The process a call leaves, whether it returned or threw. -/
def CreateCall.after : CreateCall → Process → Process
  | .publisher topicName qos handle intraHandle, process =>
    stateAfter (createPublisher topicName qos handle intraHandle process)
  | .subscription topicName group ignore msgMemStrat handle intraHandle, process =>
    stateAfter (createSubscriptionInternal topicName group ignore msgMemStrat handle intraHandle
      process)
  | .client serviceName group handle, process =>
    stateAfter (createClient serviceName group handle process)
  | .service serviceName group handle, process =>
    stateAfter (createService serviceName group handle process)

/-- A sequence of calls, each returning or throwing, the caller going on after a throw. -/
def createAll (calls : List CreateCall) (process : Process) : Process :=
  calls.foldl (fun process call => call.after process) process

/-- **One call keeps `Consistent`**, whatever its arguments and whatever its `rmw_create_*` calls
return, whether it returns or throws. -/
theorem consistent_after (call : CreateCall) {process : Process}
    (consistent : Consistent process) : Consistent (call.after process) := by
  cases call with
  | publisher topicName qos handle intraHandle =>
    simp only [CreateCall.after, createPublisher]
    split
    · exact consistent
    · split
      · split
        · exact consistent
        · exact consistent.addPublisher _
      · exact consistent
  | subscription topicName group ignore msgMemStrat handle intraHandle =>
    simp only [CreateCall.after, createSubscriptionInternal]
    split
    · exact consistent
    · split
      · -- the check of line 197 repeats the one of line 175, so it passes here
        rename_i intra
        obtain ⟨registered, subOk⟩ := consistent.addSubscription
          ⟨topicName, ignore, handle, msgMemStrat.getD .createDefault, none⟩ intraHandle
        rw [stateAfter_thenReturn]
        exact registered.assign _ group fun sub attached => by
          cases attached
          exact subOk intra
      · rename_i local_
        rw [stateAfter_thenReturn]
        exact consistent.assign _ group fun sub attached => by
          cases attached
          simp [IntraRegistered, local_]
  | client serviceName group handle | service serviceName group handle =>
    simp only [CreateCall.after, createClient, createService]
    split
    · exact consistent
    · rw [stateAfter_thenReturn]
      exact consistent.assign _ group fun sub attached => by cases attached

/-- A new node, with an intra-process manager that has handed out nothing, is consistent. -/
theorem consistent_new (useIntraProcessComms : Bool) :
    Consistent (Process.ofNode (Node.new useIntraProcessComms)) :=
  ⟨rfl, fun _ member => (by cases member), List.nodup_nil, fun group member sub held => by
    obtain rfl := List.mem_singleton.mp member
    cases held⟩

/-- **The registry over every sequence of create calls** (`node_impl.hpp`, lines 41–328): from
any consistent process, every sequence of create calls, with any arguments and any outcome of their
`rmw_create_*` calls, leaves a consistent process. -/
theorem createAll_consistent (calls : List CreateCall) {process : Process}
    (consistent : Consistent process) : Consistent (createAll calls process) := by
  induction calls generalizing process with
  | nil => exact consistent
  | cons call calls ih => exact ih (consistent_after call consistent)

theorem createAll_consistent_intraNode :
    Consistent (Process.ofNode (Node.new true)) ∧
      Consistent (createAll
        [.subscription "chatter" none false none (some 1) none,
          .subscription "chatter" (some 7) false none (some 2) (some 3),
          .publisher "chatter" ⟨10⟩ (some 4) (some 5), .client "add" none none,
          .service "add" (some 0) (some 6)]
        (Process.ofNode (Node.new true))) :=
  ⟨consistent_new true, createAll_consistent _ (consistent_new true)⟩

/-! ### What a call throws -/

/-- The kind of entity a call creates, as its messages name it. -/
def CreateCall.kind : CreateCall → String
  | .publisher .. => "publisher"
  | .subscription .. => "subscription"
  | .client .. => "client"
  | .service .. => "service"

/-- The message a call threw, if it threw. -/
def CreateCall.thrownMessage : CreateCall → Process → Option String
  | .publisher topicName qos handle intraHandle, process =>
    thrown (createPublisher topicName qos handle intraHandle process)
  | .subscription topicName group ignore msgMemStrat handle intraHandle, process =>
    thrown (createSubscriptionInternal topicName group ignore msgMemStrat handle intraHandle
      process)
  | .client serviceName group handle, process => thrown (createClient serviceName group handle process)
  | .service serviceName group handle, process =>
    thrown (createService serviceName group handle process)

/-- The group assignment throws only the message of lines 241, 282 and 320. -/
theorem thrown_attachToGroup {kind : String} {group : Option Nat} {entity : Entity}
    {process : Process} {message : String}
    (threw : thrown (attachToGroup kind group entity process) = some message) :
    message = "Cannot create " ++ kind ++ ", group not in node." := by
  cases group with
  | none => cases threw
  | some target =>
    simp only [attachToGroup] at threw
    split at threw <;> cases threw
    rfl

/-- **Every throw names what was being created** (`node_impl.hpp`, lines 52–68, 177–200, 241,
265–282 and 308–320). Whatever its arguments and whatever `rmw` returns, a create call throws only
`could not create <kind>: ` or `could not create intra process <kind>: ` followed by
`rmw_get_error_string_safe()`, or `Cannot create <kind>, group not in node.`, where `<kind>` is
the entity it creates. -/
theorem createCall_throws_kind (call : CreateCall) (process : Process) (message : String)
    (threw : call.thrownMessage process = some message) :
    message = "could not create " ++ call.kind ++ ": " ++ process.rmwErrorString ∨
      message = "could not create intra process " ++ call.kind ++ ": " ++ process.rmwErrorString ∨
      message = "Cannot create " ++ call.kind ++ ", group not in node." := by
  cases call with
  | publisher topicName qos handle intraHandle =>
    simp only [CreateCall.thrownMessage, createPublisher] at threw
    split at threw
    · cases threw
      exact .inl rfl
    · split at threw
      · split at threw <;> cases threw
        refine .inr (.inl ?_)
        rw [show ("could not create " ++ "intra process publisher" : String) =
          "could not create intra process " ++ "publisher" by decide]
        rfl
      · cases threw
  | subscription topicName group ignore msgMemStrat handle intraHandle =>
    simp only [CreateCall.thrownMessage, createSubscriptionInternal] at threw
    split at threw
    · cases threw
      exact .inl rfl
    · split at threw <;> rw [thrown_thenReturn] at threw <;>
        exact .inr (.inr (thrown_attachToGroup threw))
  | client serviceName group handle | service serviceName group handle =>
    simp only [CreateCall.thrownMessage, createClient, createService] at threw
    split at threw
    · cases threw
      exact .inl rfl
    · rw [thrown_thenReturn] at threw
      exact .inr (.inr (thrown_attachToGroup threw))

/-- **The intra-process subscription error is never thrown** (lines 197–201). Whatever its
arguments and whatever `rmw` returns, `create_subscription_internal` throws only
`could not create subscription: ` with `rmw_get_error_string_safe()`, or
`Cannot create subscription, group not in node.`: the check guarding the message
`could not create intra process subscription: ` repeats the one of line 175, which has passed. -/
theorem createSubscriptionInternal_throws (topicName : String) (group : Option Nat)
    (ignoreLocalPublications : Bool) (msgMemStrat : Option MessageMemoryStrategy)
    (subscriberHandle intraProcessSubscriberHandle : RmwHandle) (process : Process)
    (message : String)
    (threw : thrown (createSubscriptionInternal topicName group ignoreLocalPublications msgMemStrat
      subscriberHandle intraProcessSubscriberHandle process) = some message) :
    message = "could not create subscription: " ++ process.rmwErrorString ∨
      message = "Cannot create subscription, group not in node." := by
  simp only [createSubscriptionInternal] at threw
  split at threw
  · cases threw
    exact .inl rfl
  · split at threw <;> rw [thrown_thenReturn] at threw <;>
      exact .inr (thrown_attachToGroup threw)

theorem createSubscriptionInternal_throws_intraNode :
    thrown (createSubscriptionInternal "chatter" (some 7) false none (some 1) none
        (Process.ofNode (Node.new true))) = some "Cannot create subscription, group not in node." ∧
      ("Cannot create subscription, group not in node." =
          "could not create subscription: " ++ (Process.ofNode (Node.new true)).rmwErrorString ∨
        "Cannot create subscription, group not in node." =
          "Cannot create subscription, group not in node.") :=
  ⟨rfl, createSubscriptionInternal_throws "chatter" (some 7) false none (some 1) none _ _ rfl⟩

end Rclcpp
