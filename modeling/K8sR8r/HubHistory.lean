import K8sR8r.FleetWorld

/-!
# What hub requests can do

Every request to the hub leaves it alone or stores one object under a version
nobody has seen before.  A controller that compares versions can therefore
never mistake a changed object for the one it read.
-/

namespace K8sR8r

namespace Hub

variable {hub before after : Hub} {fails : Prop} {call : HubCall} {reply : call.Reply}

structure Consistent (hub : Hub) : Prop where
  key : ∀ key rep, hub.replications key = some rep → rep.key = key
  version : ∀ key rep, hub.replications key = some rep →
    rep.resourceVersion < hub.nextVersion
  sourceVersion : ∀ gvk key source, hub.sources gvk key = some source →
    source.resourceVersion < hub.nextVersion

/-- `after` comes later than `before`: what has an old version is as it was. -/
structure Newer (before after : Hub) : Prop where
  versions : before.nextVersion ≤ after.nextVersion
  unchanged : ∀ key rep, after.replications key = some rep →
    rep.resourceVersion < before.nextVersion →
      before.replications key = some rep
  sourceUnchanged : ∀ gvk key source, after.sources gvk key = some source →
    source.resourceVersion < before.nextVersion →
      before.sources gvk key = some source

theorem Newer.refl (hub : Hub) : hub.Newer hub :=
  ⟨le_rfl, fun _ _ h _ => h, fun _ _ _ h _ => h⟩

theorem Newer.trans {first second third : Hub} (head : first.Newer second)
    (tail : second.Newer third) :
    first.Newer third where
  versions := head.versions.trans tail.versions
  unchanged := by
    intro key rep hrep hversion
    have hsecond := tail.unchanged key rep hrep (hversion.trans_le head.versions)
    exact head.unchanged key rep hsecond hversion
  sourceUnchanged := by
    intro gvk key source hsource hversion
    have hsecond := tail.sourceUnchanged gvk key source hsource (hversion.trans_le head.versions)
    exact head.sourceUnchanged gvk key source hsecond hversion

/-- A Replication in hand: if its version is still current, it is what is
stored. -/
def Holds (hub : Hub) (rep : Replication) : Prop :=
  rep.resourceVersion < hub.nextVersion ∧ ∀ cur, hub.replications rep.key = some cur →
      cur.resourceVersion = rep.resourceVersion → cur = rep

variable {rep : Replication} {key : NamespacedName} {gvk : GroupVersionKind}
  {next : Option Replication}

theorem Holds.newer (holds : before.Holds rep) (newer : before.Newer after) : after.Holds rep := by
  refine ⟨holds.1.trans_le newer.versions, ?_⟩
  intro cur hcur hversion
  have hbefore : before.replications rep.key = some cur := by
    apply newer.unchanged rep.key cur hcur
    rw [hversion]
    exact holds.1
  exact holds.2 cur hbefore hversion

theorem Consistent.holds (consistent : hub.Consistent) (hrep : hub.replications key = some rep) :
    hub.Holds rep := by
  have hkey := consistent.key key rep hrep
  refine ⟨consistent.version key rep hrep, ?_⟩
  intro cur hcur _
  rw [hkey, hrep] at hcur
  exact (Option.some.inj hcur).symm

/-! ## One write -/

@[simp] theorem setReplication_nextVersion (hub : Hub) (key : NamespacedName)
    (next : Option Replication) :
    (hub.setReplication key next).nextVersion = hub.nextVersion + 1 := rfl

@[simp] theorem setReplication_self (hub : Hub) (key : NamespacedName) (next : Option Replication) :
    (hub.setReplication key next).replications key = next := by
  simp [setReplication]

theorem setReplication_of_ne (hub : Hub) {other : NamespacedName} (next : Option Replication)
    (hne : other ≠ key) :
    (hub.setReplication key next).replications other = hub.replications other := by
  simp [setReplication, Function.update_of_ne hne]

@[simp] theorem setSource_self (hub : Hub) (gvk : GroupVersionKind) (key : NamespacedName)
    (next : Option SourceObject) :
    (hub.setSource gvk key next).sources gvk key = next := by
  simp [setSource]

theorem setSource_of_ne (hub : Hub) {other : GroupVersionKind} {otherKey : NamespacedName}
    (next : Option SourceObject) (hne : ¬ (other = gvk ∧ otherKey = key)) :
    (hub.setSource gvk key next).sources other otherKey = hub.sources other otherKey := by
  unfold setSource
  by_cases hgvk : other = gvk
  · subst other
    have hkey : otherKey ≠ key := fun h => hne ⟨rfl, h⟩
    simp [Function.update_of_ne hkey]
  · simp [Function.update_of_ne hgvk]

theorem Consistent.setReplication (consistent : hub.Consistent)
    (hnext : ∀ rep, next = some rep → rep.key = key ∧ rep.resourceVersion ≤ hub.nextVersion) :
    (hub.setReplication key next).Consistent where
  key := by
    intro other rep hrep
    by_cases hother : other = key
    · subst other
      rw [setReplication_self] at hrep
      exact (hnext rep hrep).1
    · rw [setReplication_of_ne hub next hother] at hrep
      exact consistent.key other rep hrep
  version := by
    intro other rep hrep
    rw [setReplication_nextVersion]
    by_cases hother : other = key
    · subst other
      rw [setReplication_self] at hrep
      have := (hnext rep hrep).2
      omega
    · rw [setReplication_of_ne hub next hother] at hrep
      have := consistent.version other rep hrep
      omega
  sourceVersion := by
    intro gvk other source hsource
    have := consistent.sourceVersion gvk other source hsource
    rw [setReplication_nextVersion]
    omega

theorem newer_setReplication
    (hnext : ∀ rep, next = some rep → rep.resourceVersion = hub.nextVersion) :
    hub.Newer (hub.setReplication key next) where
  versions := Nat.le_succ _
  unchanged := by
    intro other rep hrep hversion
    by_cases hother : other = key
    · subst other
      rw [setReplication_self] at hrep
      have := hnext rep hrep
      omega
    · rwa [setReplication_of_ne hub next hother] at hrep
  sourceUnchanged := fun _ _ _ h _ => h

theorem Consistent.setSource (consistent : hub.Consistent) {next : Option SourceObject}
    (hnext : ∀ source, next = some source → source.resourceVersion ≤ hub.nextVersion) :
    (hub.setSource gvk key next).Consistent where
  key := consistent.key
  version := by
    intro other rep hrep
    have := consistent.version other rep hrep
    exact Nat.lt_succ_of_lt this
  sourceVersion := by
    intro other otherKey source hsource
    change source.resourceVersion < hub.nextVersion + 1
    by_cases hother : other = gvk ∧ otherKey = key
    · obtain ⟨rfl, rfl⟩ := hother
      rw [setSource_self] at hsource
      have := hnext source hsource
      omega
    · rw [setSource_of_ne hub next hother] at hsource
      have := consistent.sourceVersion other otherKey source hsource
      omega

theorem newer_setSource {next : Option SourceObject}
    (hnext : ∀ source, next = some source → source.resourceVersion = hub.nextVersion) :
    hub.Newer (hub.setSource gvk key next) where
  versions := Nat.le_succ _
  unchanged := fun _ _ h _ => h
  sourceUnchanged := by
    intro other otherKey source hsource hversion
    by_cases hother : other = gvk ∧ otherKey = key
    · obtain ⟨rfl, rfl⟩ := hother
      rw [setSource_self] at hsource
      have := hnext source hsource
      omega
    · rwa [setSource_of_ne hub next hother] at hsource

/-! ## Every request -/

theorem keepUnlessReleased_of_live (live : rep.deletionTimestamp = none) :
    keepUnlessReleased rep = some rep := by
  simp [keepUnlessReleased, live]

theorem keepUnlessReleased_eq_some {kept : Replication}
    (hkept : keepUnlessReleased rep = some kept) :
    kept = rep := by
  unfold keepUnlessReleased at hkept
  split_ifs at hkept
  exact (Option.some.inj hkept).symm

theorem keepSourceUnlessReleased_eq_some {source kept : SourceObject}
    (hkept : keepSourceUnlessReleased source = some kept) :
    kept = source := by
  unfold keepSourceUnlessReleased at hkept
  split_ifs at hkept
  exact (Option.some.inj hkept).symm

theorem current_eq_some {cur : Replication} (hcur : hub.current rep = some cur) :
    hub.replications rep.key = some cur ∧ cur.resourceVersion = rep.resourceVersion := by
  simpa [current, Option.filter_eq_some_iff] using hcur

/-- What an answered request has done to the hub: reads and failed writes nothing, any other write
one object. -/
inductive Effect (hub : Hub) : (call : HubCall) → call.Reply → Hub → Prop where
  | same {call : HubCall} {reply : call.Reply} : Effect hub call reply hub
  | created {rep stored : Replication} (missing : hub.replications rep.key = none)
      (stored_eq : stored =
        { rep with
          uid := hub.freshUID hub.nextVersion
          resourceVersion := hub.nextVersion
          generation := 1
          deletionTimestamp := none
          status := .empty }) :
      Effect hub (.createReplication rep) (.ok stored) (hub.setReplication rep.key (some stored))
  | updated {rep cur stored : Replication} (hcur : hub.current rep = some cur)
      (stored_eq : stored =
        { rep with
          uid := cur.uid
          resourceVersion := hub.nextVersion
          generation := if rep.spec = cur.spec then cur.generation else cur.generation + 1
          deletionTimestamp := cur.deletionTimestamp
          status := cur.status }) :
      Effect hub (.updateReplication rep) (.ok stored)
        (hub.setReplication rep.key (keepUnlessReleased stored))
  | statusUpdated {rep cur stored : Replication} (hcur : hub.current rep = some cur)
      (stored_eq : stored =
        { cur with
          resourceVersion := hub.nextVersion
          status := rep.status }) :
      Effect hub (.updateReplicationStatus rep) (.ok stored)
        (hub.setReplication rep.key (some stored))
  | deleted {key : NamespacedName} {cur : Replication} (hcur : hub.replications key = some cur) :
      Effect hub (.deleteReplication key) (.ok ()) (hub.setReplication key (keepUnlessReleased
        { cur with
          resourceVersion := hub.nextVersion
          deletionTimestamp := some (cur.deletionTimestamp.getD hub.clock) }))
  | patched {obj : PartialObjectMetadata} {cur stored : SourceObject}
      (hcur : hub.sources obj.groupVersionKind obj.key = some cur)
      (stored_eq : stored =
        { cur with
          resourceVersion := hub.nextVersion
          finalizers := obj.finalizers }) :
      Effect hub (.patchSourceFinalizers obj)
        (.ok (metadataAt obj.groupVersionKind obj.key stored))
        (hub.setSource obj.groupVersionKind obj.key (keepSourceUnlessReleased stored))

theorem Answers.effect (answer : hub.Answers fails call reply after) :
    hub.Effect call reply after := by
  -- A failed write leaves the hub alone; an accepted one is read off its definition.
  cases call with
  | getReplication key => rw [answer.2]; exact .same
  | getSource gvk key => rw [answer.2]; exact .same
  | getSourceMetadata gvk key => rw [answer.2]; exact .same
  | listPolicies => rw [answer.2]; exact .same
  | getNamespaceLabels name => rw [answer.2]; exact .same
  | createReplication rep =>
    rcases reply with err | stored
    · rw [answer.1]
      exact .same
    · have haccepted : hub.acceptCreate rep = some (stored, after) := answer
      unfold acceptCreate at haccepted
      split at haccepted
      · cases haccepted
      · next hmissing =>
          cases haccepted
          exact .created hmissing rfl
  | updateReplication rep =>
    rcases reply with err | stored
    · rw [answer.1]
      exact .same
    · obtain ⟨cur, hcur, heq⟩ := Option.map_eq_some_iff.mp answer
      cases heq
      exact .updated hcur rfl
  | updateReplicationStatus rep =>
    rcases reply with err | stored
    · rw [answer.1]
      exact .same
    · obtain ⟨cur, hcur, heq⟩ := Option.map_eq_some_iff.mp answer
      cases heq
      exact .statusUpdated hcur rfl
  | deleteReplication key =>
    rcases reply with err | _
    · rw [answer.1]
      exact .same
    · obtain ⟨cur, hcur, heq⟩ := Option.map_eq_some_iff.mp answer
      cases heq
      exact .deleted hcur
  | patchSourceFinalizers obj =>
    rcases reply with err | stored
    · rw [answer.1]
      exact .same
    · obtain ⟨cur, hcur, heq⟩ := Option.map_eq_some_iff.mp answer
      cases heq
      exact .patched (Option.filter_eq_some_iff.mp hcur).1 rfl

/-- A live Replication that is not deleted stays; its spec is the old one or an update's, its
status the old one or a status update's. -/
theorem Effect.keeps_replication {nn : NamespacedName} (effect : hub.Effect call reply after)
    (hrep : hub.replications nn = some rep) (live : rep.deletionTimestamp = none)
    (undeleted : ∀ key, call ≠ .deleteReplication key) :
    ∃ kept, after.replications nn = some kept ∧ kept.deletionTimestamp = none ∧
      kept.uid = rep.uid ∧
      (kept.spec = rep.spec ∨
        ∃ new, call = .updateReplication new ∧ new.key = nn ∧ kept.spec = new.spec) ∧
      (kept.status = rep.status ∨
        ∃ new, call = .updateReplicationStatus new ∧ hub.current new = some rep ∧
          kept.status = new.status) := by
  cases effect with
  | same => exact ⟨rep, hrep, live, rfl, .inl rfl, .inl rfl⟩
  | patched => exact ⟨rep, hrep, live, rfl, .inl rfl, .inl rfl⟩
  | deleted => exact (undeleted _ rfl).elim
  | created missing =>
    refine ⟨rep, ?_, live, rfl, .inl rfl, .inl rfl⟩
    rw [setReplication_of_ne]
    · exact hrep
    · rintro rfl
      rw [missing] at hrep
      cases hrep
  | @updated new cur stored hcur stored_eq =>
    by_cases hkey : nn = new.key
    · subst nn
      have hsame := (current_eq_some hcur).1
      rw [hrep] at hsame
      cases hsame
      have hlive : stored.deletionTimestamp = none := by rw [stored_eq, live]
      refine ⟨stored, ?_, hlive, ?_⟩
      · rw [setReplication_self, keepUnlessReleased_of_live hlive]
      · subst stored_eq
        exact ⟨rfl, .inr ⟨new, rfl, rfl, rfl⟩, .inl rfl⟩
    · refine ⟨rep, ?_, live, rfl, .inl rfl, .inl rfl⟩
      rw [setReplication_of_ne _ _ hkey]
      exact hrep
  | @statusUpdated new cur stored hcur stored_eq =>
    by_cases hkey : nn = new.key
    · subst nn
      have hsame := (current_eq_some hcur).1
      rw [hrep] at hsame
      cases hsame
      subst stored_eq
      exact ⟨_, setReplication_self _ _ _, live, rfl, .inl rfl, .inr ⟨new, rfl, hcur, rfl⟩⟩
    · refine ⟨rep, ?_, live, rfl, .inl rfl, .inl rfl⟩
      rw [setReplication_of_ne _ _ hkey]
      exact hrep

/-- A source that is not being deleted stays; at most its version and finalizers change. -/
theorem Effect.keeps_source {gvk : GroupVersionKind} {source : SourceObject}
    (effect : hub.Effect call reply after) (hsource : hub.sources gvk key = some source)
    (live : source.deletionTimestamp = none) :
    ∃ version finalizers, after.sources gvk key =
      some { source with resourceVersion := version, finalizers := finalizers } := by
  cases effect with
  | @patched obj cur stored hcur stored_eq =>
    by_cases hsame : gvk = obj.groupVersionKind ∧ key = obj.key
    · obtain ⟨rfl, rfl⟩ := hsame
      rw [hsource] at hcur
      cases hcur
      refine ⟨hub.nextVersion, obj.finalizers, ?_⟩
      rw [setSource_self, stored_eq]
      simp [keepSourceUnlessReleased, live]
    · refine ⟨source.resourceVersion, source.finalizers, ?_⟩
      rw [setSource_of_ne _ _ hsame]
      exact hsource
  | _ => exact ⟨_, _, hsource⟩

theorem Consistent.answers_cases (consistent : hub.Consistent)
    (answer : hub.Answers fails call reply after) :
    after = hub ∨ (∃ key next, after = hub.setReplication key next ∧ ∀ rep, next = some rep →
          rep.key = key ∧ rep.resourceVersion = hub.nextVersion) ∨
      ∃ gvk key next, after = hub.setSource gvk key next ∧ ∀ source, next = some source →
          source.resourceVersion = hub.nextVersion := by
  cases answer.effect with
  | same => exact .inl rfl
  | created missing stored_eq =>
    refine .inr (.inl ⟨_, _, rfl, ?_⟩)
    rintro kept ⟨⟩
    rw [stored_eq]
    exact ⟨rfl, rfl⟩
  | updated hcur stored_eq =>
    refine .inr (.inl ⟨_, _, rfl, ?_⟩)
    intro kept hkept
    rw [keepUnlessReleased_eq_some hkept, stored_eq]
    exact ⟨rfl, rfl⟩
  | statusUpdated hcur stored_eq =>
    refine .inr (.inl ⟨_, _, rfl, ?_⟩)
    rintro kept ⟨⟩
    have hkey := consistent.key _ _ (current_eq_some hcur).1
    rw [stored_eq]
    exact ⟨hkey, rfl⟩
  | deleted hcur =>
    refine .inr (.inl ⟨_, _, rfl, ?_⟩)
    intro kept hkept
    have hkey := consistent.key _ _ hcur
    rw [keepUnlessReleased_eq_some hkept]
    exact ⟨hkey, rfl⟩
  | patched hcur stored_eq =>
    refine .inr (.inr ⟨_, _, _, rfl, ?_⟩)
    intro kept hkept
    rw [keepSourceUnlessReleased_eq_some hkept, stored_eq]

theorem Consistent.answers (consistent : hub.Consistent)
    (answer : hub.Answers fails call reply after) : after.Consistent := by
  rcases consistent.answers_cases answer with
    rfl | ⟨key, next, rfl, hnext⟩ | ⟨gvk, key, next, rfl, hnext⟩
  · exact consistent
  · exact consistent.setReplication fun rep hrep =>
      ⟨(hnext rep hrep).1, (hnext rep hrep).2.le⟩
  · exact consistent.setSource fun source hsource =>
      (hnext source hsource).le

theorem Consistent.newer_of_answers (consistent : hub.Consistent)
    (answer : hub.Answers fails call reply after) : hub.Newer after := by
  rcases consistent.answers_cases answer with
    rfl | ⟨key, next, rfl, hnext⟩ | ⟨gvk, key, next, rfl, hnext⟩
  · exact .refl _
  · exact newer_setReplication fun rep hrep => (hnext rep hrep).2
  · exact newer_setSource hnext

theorem Answers.background (answer : hub.Answers fails call reply after) :
    after.policies = hub.policies ∧ after.namespaces = hub.namespaces := by
  cases answer.effect <;> exact ⟨rfl, rfl⟩

end Hub

end K8sR8r
