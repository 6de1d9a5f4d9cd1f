import Mathlib.Data.List.Nodup
import RingCalc.Proofs.CommandLine.Configuration
import RingCalc.Proofs.Settings.Layers
import RingCalc.Session

/-!
# Registrations

Whatever was asked of a session, a name is known there if it was registered, and then for the
factory that was registered last.  Taking a ring, listing the names and checking settings never
disagree about that: they look at one registry, and only registrations change it.  A name stays known,
so settings that were loaded name a ring that is there whenever an expression is evaluated.
-/

namespace RingCalc

universe u

/-! ## Settings that name a ring -/

namespace Settings

/-- Settings may name a ring so: they are valid with that alone, and they are not refused for it
whatever else is in them and wherever the name is from. -/
structure Accepts (knows : String → Bool) (name : String) : Prop where
  alone : resolve knows [(Setting.ring.key, .string name)] (fun _ => none) = .ok { ring := name }
  among : ∀ {file : Toml.Table} {environment : String → Option String} {problems : List Problem},
    given file environment .ring = some (.string name) →
    resolve knows file environment = .error problems →
    ∀ problem ∈ problems, problem.key ≠ Setting.ring.key

/-- Settings may not name a ring so: they are refused, and told why, whatever else is in them. -/
def Refuses (knows : String → Bool) (name : String) : Prop :=
  ∀ {file : Toml.Table} {environment : String → Option String},
    given file environment .ring = some (.string name) →
    ∃ problems, resolve knows file environment = .error problems ∧ .unknownRing name ∈ problems

variable {β : Type} {rings : Registry β} {name : String}

theorem accepts_of_mem (known : name ∈ rings.names) : Accepts rings.contains name where
  alone := by
    have checks : checkRing rings.contains (.string name) = .ok name :=
      checkRing_eq_ok_iff.mpr ⟨rfl, known⟩
    have fine : checked (checkRing rings.contains) "int"
        (given [(Setting.ring.key, .string name)] (fun _ => none) .ring) = .ok name := checks
    rw [resolve, fine]
    rfl
  among := by
    intro file environment problems named refused problem member about
    obtain ⟨-, settings, -, found⟩ | ⟨-, same⟩ := resolve_cases rings file environment
    · cases refused.symm.trans found
    · cases refused.symm.trans same
      cases mem_reports.mp member with
      | @value setting value problem given fault =>
        obtain rfl : setting = .ring := by
          rw [fault.key_eq] at about
          cases setting with
          | ring => rfl
          | logLevel | caret => exact absurd about (by decide)
        cases named.symm.trans ((get?_overlay file environment .ring).symm.trans given)
        cases fault with
        | ringKind kind => exact kind name rfl
        | ring unknown => exact unknown known
      | key present foreign => exact foreign .ring about

theorem refuses_of_not_mem (unknown : name ∉ rings.names) : Refuses rings.contains name := by
  intro file environment named
  have offends : Offends rings (overlay file environment) (.unknownRing name) :=
    .value ((get?_overlay file environment .ring).trans named) (.ring unknown)
  obtain ⟨noReports, -⟩ | ⟨-, refused⟩ := resolve_cases rings file environment
  · have member := mem_reports.mpr offends
    rw [noReports] at member
    cases member
  · exact ⟨_, refused, mem_reports.mpr offends⟩

/-- Settings that are resolved have the ring that is given. -/
theorem ring_eq_of_given {file : Toml.Table} {environment : String → Option String}
    {settings : Settings} (named : given file environment .ring = some (.string name))
    (resolved : resolve rings.contains file environment = .ok settings) :
    settings.ring = name := by
  obtain ⟨-, found, holds, same⟩ | ⟨-, refused⟩ := resolve_cases rings file environment
  · cases resolved.symm.trans same
    rw [← get?_overlay] at named
    obtain given | ⟨missing, -⟩ := holds.ring
    · cases named.symm.trans given
      rfl
    · cases named.symm.trans missing
  · cases refused.symm.trans resolved

/-- Settings that were loaded name a ring that is known, or the one that needs no naming. -/
theorem mem_names_of_load {surroundings : Surroundings} {path : Option String}
    {settings : Settings} (loaded : load rings.contains surroundings path = .ok settings) :
    settings.ring ∈ rings.names ∨ settings.ring = "int" := by
  obtain ⟨entries, -, resolved⟩ := load_eq_ok_iff.mp loaded
  obtain ⟨noReports, found, holds, same⟩ | ⟨-, refused⟩ :=
    resolve_cases rings entries surroundings.environment
  · cases resolved.symm.trans same
    obtain given | ⟨-, standard⟩ := holds.ring
    · refine .inl (Classical.byContradiction fun unknown => ?_)
      have member := mem_reports.mpr (.value given (.ring unknown))
      rw [noReports] at member
      cases member
    · exact .inr standard
  · cases refused.symm.trans resolved

end Settings

/-! ## Sessions -/

namespace Session

variable {ω : Type} {β : Type u} {session : Session ω β} {name : String} {factory : Factory ω β}
  {requests : List (SessionRequest ω β)}

theorem after_append (session : Session ω β) (first second : List (SessionRequest ω β)) :
    session.after (first ++ second) = (session.after first).after second :=
  List.foldl_append

/-! ### One request -/

/-- A request that registers nothing leaves the registry alone, and unless it takes a ring it leaves
the world alone too. -/
theorem serve_of_not_register {request : SessionRequest ω β}
    (other : ∀ name factory, request ≠ .register name factory) :
    (session.serve request).2.registry = session.registry ∧
      ((∀ ring, (session.serve request).1 ≠ .ring ring) → (session.serve request).2 = session) := by
  cases request with
  | register name factory => exact absurd rfl (other name factory)
  | take name =>
    rw [serve]
    split
    · exact ⟨rfl, fun _ => rfl⟩
    · exact ⟨rfl, fun takesNothing => absurd rfl (takesNothing _)⟩
  | names => exact ⟨rfl, fun _ => rfl⟩
  | load surroundings path => exact ⟨rfl, fun _ => rfl⟩

theorem get?_serve_of_not_register {request : SessionRequest ω β}
    (other : ∀ factory, request ≠ .register name factory) :
    (session.serve request).2.registry.get? name = session.registry.get? name := by
  by_cases registers : ∃ key factory, request = .register key factory
  · obtain ⟨key, factory, rfl⟩ := registers
    have differs : key ≠ name := by
      rintro rfl
      exact other factory rfl
    exact (session.registry.get?_register key name factory).trans (if_neg differs)
  · rw [(serve_of_not_register fun key factory same => registers ⟨key, factory, same⟩).1]

/-! ### Many requests -/

/-- The factory that some requests registered last under a name. -/
def RegisteredLast (requests : List (SessionRequest ω β)) (name : String)
    (factory : Factory ω β) : Prop :=
  ∃ earlier since, requests = earlier ++ .register name factory :: since ∧
    ∀ other, .register name other ∉ since

theorem registeredLast_or_not (requests : List (SessionRequest ω β)) (name : String) :
    (∃ factory, RegisteredLast requests name factory) ∨
      ∀ factory, .register name factory ∉ requests := by
  -- The last registration is among the later requests, if one of them is a registration.
  induction requests with
  | nil => exact .inr fun _ => List.not_mem_nil
  | cons request rest inductionHypothesis =>
    obtain ⟨factory, earlier, since, rfl, final⟩ | unregistered := inductionHypothesis
    · exact .inl ⟨factory, request :: earlier, since, rfl, final⟩
    · by_cases registers : ∃ factory, request = .register name factory
      · obtain ⟨factory, rfl⟩ := registers
        exact .inl ⟨factory, [], rest, rfl, unregistered⟩
      · refine .inr fun factory member => ?_
        obtain same | member := List.mem_cons.mp member
        · exact registers ⟨factory, same.symm⟩
        · exact unregistered factory member

/-- A name stays what it is until it is registered again. -/
theorem get?_after_of_not_registered
    (unregistered : ∀ factory, .register name factory ∉ requests) :
    (session.after requests).registry.get? name = session.registry.get? name := by
  induction requests generalizing session with
  | nil => rfl
  | cons request rest inductionHypothesis =>
    have later : ∀ factory, .register name factory ∉ rest :=
      fun factory member => unregistered factory (List.mem_cons_of_mem request member)
    refine (inductionHypothesis later).trans (get?_serve_of_not_register ?_)
    rintro factory rfl
    exact unregistered factory List.mem_cons_self

theorem get?_after_of_registeredLast (last : RegisteredLast requests name factory) :
    (session.after requests).registry.get? name = some factory := by
  obtain ⟨earlier, since, rfl, final⟩ := last
  rw [after_append]
  refine (get?_after_of_not_registered final).trans ?_
  exact ((session.after earlier).registry.get?_register name name factory).trans (if_pos rfl)

theorem mem_names_after (known : name ∈ session.registry.names)
    (requests : List (SessionRequest ω β)) : name ∈ (session.after requests).registry.names := by
  rw [← Registry.isSome_get?]
  obtain ⟨factory, last⟩ | unregistered := registeredLast_or_not requests name
  · rw [get?_after_of_registeredLast last]
    rfl
  · rw [get?_after_of_not_registered unregistered]
    exact (session.registry.isSome_get? name).mpr known

/-! ### A name -/

/-- A session knows a name, by a factory: a ring taken by the name is what the factory makes at this
moment, the name is listed once, and settings may name their ring so. -/
structure Knows (session : Session ω β) (name : String) (factory : Factory ω β) : Prop where
  taken : session.serve (.take name) =
    (.ring (factory session.world).1, ⟨session.registry, (factory session.world).2⟩)
  listed : session.registry.names.count name = 1
  accepted : Settings.Accepts session.registry.contains name

/-- A session lacks a name: no ring is taken by it, which changes nothing, and it is neither listed
nor accepted in settings. -/
structure Lacks (session : Session ω β) (name : String) : Prop where
  untaken : session.serve (.take name) = (.unknown (session.registry.unknownMessage name), session)
  unlisted : name ∉ session.registry.names
  refused : Settings.Refuses session.registry.contains name

theorem knows_of_get? (found : session.registry.get? name = some factory) :
    session.Knows name factory := by
  have known : name ∈ session.registry.names := by
    rw [← Registry.isSome_get?, found]
    rfl
  refine ⟨?_, List.count_eq_one_of_mem session.registry.nodup_names known, ?_⟩
  · rw [serve, found]
  · -- Settings look at the names only, whatever is registered under them.
    rw [← Registry.contains_map (fun _ => ()) session.registry]
    refine Settings.accepts_of_mem ?_
    rwa [Registry.names_map]

theorem lacks_of_get? (missing : session.registry.get? name = none) : session.Lacks name := by
  have unknown : name ∉ session.registry.names := by
    rw [← Registry.isSome_get?, missing]
    exact Bool.false_ne_true
  refine ⟨?_, unknown, ?_⟩
  · rw [serve, missing]
  · rw [← Registry.contains_map (fun _ => ()) session.registry]
    refine Settings.refuses_of_not_mem ?_
    rwa [Registry.names_map]

theorem Lacks.not_accepts (lacked : session.Lacks name) :
    ¬ Settings.Accepts session.registry.contains name := by
  intro accepts
  have named : Settings.given [(Setting.ring.key, .string name)] (fun _ => none) .ring =
      some (.string name) := rfl
  obtain ⟨problems, refused, -⟩ := lacked.refused named
  cases accepts.alone.symm.trans refused

/-- An answer names a ring: it has settings with that ring, or it tells problems with settings, none
of which is about the ring. -/
inductive NamesRing (name : String) : SessionAnswer β → Prop where
  | loaded {settings : Settings} (same : settings.ring = name) :
      NamesRing name (.settings (.ok settings))
  | refused {problems : List Problem} {fault : String}
      (others : ∀ problem ∈ problems, problem.key ≠ Setting.ring.key) :
      NamesRing name (.settings (.error (.config (.invalidSettings problems fault))))

section

variable {surroundings : Surroundings} {path : Option String} {entries : Toml.Table}

theorem Knows.namesRing_serve_load (known : session.Knows name factory)
    (holds : SectionInForce surroundings path entries)
    (named : Settings.given entries surroundings.environment .ring = some (.string name)) :
    NamesRing name (session.serve (.load surroundings path)).1 := by
  rw [serve, holds.load_eq]
  cases result : Settings.resolve session.registry.contains entries surroundings.environment with
  | ok settings =>
    rw [← Registry.contains_map fun _ => ()] at result
    exact .loaded (Settings.ring_eq_of_given named result)
  | error problems => exact .refused (known.accepted.among named result)

theorem Lacks.not_namesRing_serve_load (lacked : session.Lacks name)
    (holds : SectionInForce surroundings path entries)
    (named : Settings.given entries surroundings.environment .ring = some (.string name)) :
    ¬ NamesRing name (session.serve (.load surroundings path)).1 := by
  obtain ⟨problems, result, told⟩ := lacked.refused named
  rw [serve, holds.load_eq, result]
  intro names
  cases names with
  | refused others => exact others _ told rfl

/-- Where a ring is given, loading settings names it exactly where settings may name it. -/
theorem namesRing_serve_load_iff (holds : SectionInForce surroundings path entries)
    (named : Settings.given entries surroundings.environment .ring = some (.string name)) :
    NamesRing name (session.serve (.load surroundings path)).1 ↔
      Settings.Accepts session.registry.contains name := by
  cases found : session.registry.get? name with
  | none =>
    have lacked := lacks_of_get? found
    exact iff_of_false (lacked.not_namesRing_serve_load holds named) lacked.not_accepts
  | some factory =>
    have known := knows_of_get? found
    exact iff_of_true (known.namesRing_serve_load holds named) known.accepted

end

/-- The first ring is registered like all others, in a session that knows no name. -/
theorem after_start (standard : Factory ω β) (world : ω) (past : List (SessionRequest ω β)) :
    (start standard world).after past =
      (⟨Registry.empty, world⟩ : Session ω β).after (.register "int" standard :: past) :=
  rfl

section

variable {standard : Factory ω β} {world : ω} {past : List (SessionRequest ω β)}

theorem knows_of_registeredLast
    (last : RegisteredLast (.register "int" standard :: past) name factory) :
    ((start standard world).after past).Knows name factory := by
  rw [after_start]
  exact knows_of_get? (get?_after_of_registeredLast last)

theorem lacks_of_not_registered
    (unregistered : ∀ factory, .register name factory ∉ .register "int" standard :: past) :
    ((start standard world).after past).Lacks name := by
  rw [after_start]
  exact lacks_of_get? (get?_after_of_not_registered unregistered)

end

/-! ### Evaluation -/

theorem mem_names_of_load {standard : Factory ω β} {world : ω}
    {past : List (SessionRequest ω β)} {surroundings : Surroundings} {path : Option String}
    {settings : Settings}
    (loaded : Settings.load ((start standard world).after past).registry.contains surroundings
      path = .ok settings) :
    settings.ring ∈ ((start standard world).after past).registry.names := by
  rw [← Registry.contains_map fun _ => ()] at loaded
  obtain named | unnamed := Settings.mem_names_of_load loaded
  · rwa [Registry.names_map] at named
  · rw [unnamed]
    exact mem_names_after (Registry.mem_names_register.mpr (.inl rfl)) past

/-- Without a name from the option, an expression is evaluated in the ring that is taken by the name
in the settings. -/
theorem evalCommand_of_mem {session : Session ω PackedRing} {settings : Settings}
    (known : settings.ring ∈ session.registry.names) :
    ∃ packed, (session.serve (.take settings.ring)).1 = .ring packed ∧
      ∀ expression, CommandLine.evalCommand session.rings settings expression none =
        CommandLine.evalIn packed settings expression := by
  obtain ⟨factory, found⟩ :=
    Option.isSome_iff_exists.mp ((session.registry.isSome_get? settings.ring).mpr known)
  refine ⟨_, congrArg Prod.fst (knows_of_get? found).taken, fun expression => ?_⟩
  have same : session.rings.get? settings.ring = some (factory session.world).1 := by
    rw [rings, Registry.get?_map, found]
    rfl
  rw [CommandLine.evalCommand, CommandLine.ringName, same]

/-- What a session makes of names, after any requests in any order.

A name that was registered is known by the factory that was registered last under it, and every other
name is lacked; so a ring can be taken by a name exactly where the name is listed, and exactly where
settings may name it.  The names are listed in order.  A registration does not change what is taken by
another name; requests that register nothing leave the registry alone, and all but those that take a
ring leave everything alone.

Where a file or the environment gives a ring, loading settings names that ring exactly where settings
may name it.  Settings that were loaded at any time before name a ring that is there: without a name
from the option an expression is evaluated in the ring that is taken by that name, and so it is in
every run of the command line with these rings. -/
theorem registrations_decide (standard : Factory ω PackedRing) (world : ω)
    (past : List (SessionRequest ω PackedRing)) :
    let session := (start standard world).after past
    let history := .register "int" standard :: past
    (∀ name factory, RegisteredLast history name factory → session.Knows name factory) ∧
    (∀ name, (∀ factory, .register name factory ∉ history) → session.Lacks name) ∧
    (∀ name,
      ((∃ ring, (session.serve (.take name)).1 = .ring ring) ↔ name ∈ session.registry.names) ∧
      (name ∈ session.registry.names ↔ Settings.Accepts session.registry.contains name)) ∧
    session.serve .names = (.names session.registry.names, session) ∧
    session.registry.names.Pairwise (· < ·) ∧
    (∀ name other factory, other ≠ name → ∀ ring,
      ((session.serve (.register other factory)).2.serve (.take name)).1 = .ring ring ↔
        (session.serve (.take name)).1 = .ring ring) ∧
    (∀ request, (∀ name factory, request ≠ .register name factory) →
      (session.serve request).2.registry = session.registry ∧
        ((∀ ring, (session.serve request).1 ≠ .ring ring) →
          (session.serve request).2 = session)) ∧
    (∀ name surroundings path entries, SectionInForce surroundings path entries →
      Settings.given entries surroundings.environment .ring = some (.string name) →
      (NamesRing name (session.serve (.load surroundings path)).1 ↔
        Settings.Accepts session.registry.contains name)) ∧
    (∀ earlier surroundings path since settings,
      past = earlier ++ .load surroundings path :: since →
      (((start standard world).after earlier).serve (.load surroundings path)).1 =
        .settings (.ok settings) →
      ∃ packed, (session.serve (.take settings.ring)).1 = .ring packed ∧
        ∀ expression, CommandLine.evalCommand session.rings settings expression none =
          CommandLine.evalIn packed settings expression) ∧
    ∀ surroundings arguments settings expression,
      CommandLine.Invokes session.rings surroundings arguments .eval settings none expression →
      ∃ packed, (session.serve (.take settings.ring)).1 = .ring packed ∧
        CommandLine.run session.rings surroundings arguments =
          CommandLine.evalIn packed settings expression := by
  intro session history
  have decided : ∀ name, (∃ factory, session.Knows name factory) ∨ session.Lacks name := by
    intro name
    obtain ⟨factory, last⟩ | unregistered := registeredLast_or_not history name
    · exact .inl ⟨factory, knows_of_registeredLast last⟩
    · exact .inr (lacks_of_not_registered unregistered)
  refine ⟨fun _ _ last => knows_of_registeredLast last,
    fun _ unregistered => lacks_of_not_registered unregistered, ?_, rfl,
    session.registry.pairwise_names, ?_, fun _ other => serve_of_not_register other,
    fun _ _ _ _ holds named => namesRing_serve_load_iff holds named, ?_, ?_⟩
  · intro name
    obtain ⟨factory, known⟩ | lacked := decided name
    · have listed : name ∈ session.registry.names :=
        List.count_pos_iff.mp (known.listed ▸ Nat.one_pos)
      exact ⟨iff_of_true ⟨_, congrArg Prod.fst known.taken⟩ listed,
        iff_of_true listed known.accepted⟩
    · refine ⟨iff_of_false ?_ lacked.unlisted, iff_of_false lacked.unlisted lacked.not_accepts⟩
      rintro ⟨ring, taken⟩
      rw [lacked.untaken] at taken
      cases taken
  · intro name other factory differs ring
    have same : (session.serve (.register other factory)).2.registry.get? name =
        session.registry.get? name :=
      (session.registry.get?_register other name factory).trans (if_neg differs)
    cases found : session.registry.get? name with
    | none =>
      rw [(lacks_of_get? found).untaken, (lacks_of_get? (same.trans found)).untaken]
      exact ⟨nofun, nofun⟩
    | some factory =>
      rw [(knows_of_get? found).taken, (knows_of_get? (same.trans found)).taken]
      exact Iff.rfl
  · rintro earlier surroundings path since settings split loaded
    refine evalCommand_of_mem ?_
    have known := mem_names_of_load (SessionAnswer.settings.inj loaded)
    have later := mem_names_after known (.load surroundings path :: since)
    rwa [← after_append, ← split] at later
  · intro surroundings arguments settings expression invokes
    obtain ⟨path, loaded⟩ := invokes.exists_load
    rw [rings, Registry.contains_map] at loaded
    obtain ⟨packed, taken, evaluates⟩ := evalCommand_of_mem (mem_names_of_load loaded)
    exact ⟨packed, taken, invokes.run_eq.trans (evaluates expression)⟩

/-- A name is registered twice, the second time for a factory that counts its rings.  The ring taken
then is the second of those, since one was taken before, and so is the one in which the settings
evaluate that were loaded when the name still was the other factory's. -/
theorem registrations_decide_counted :
    let plain : Factory Nat PackedRing := fun made =>
      (⟨Unit, CheckedInt, CheckedInt.ring Unit, (), toString⟩, made)
    let counting : Factory Nat PackedRing := fun made =>
      (⟨Nat, CheckedInt, CheckedInt.ring Nat, made, toString⟩, made + 1)
    let naming : Surroundings := ⟨"/", fun _ => .missing, fun name =>
      if name = Setting.ring.environmentName then some "spare" else none, .plain⟩
    let session := (start plain 0).after [.register "spare" plain, .take "lost",
      .load naming none, .register "spare" counting, .take "spare", .names]
    session.registry.names = ["int", "spare"] ∧
      (session.serve (.take "spare")).1 = .ring (counting 1).1 ∧
      (session.serve (.take "spare")).2.world = 2 ∧ session.Lacks "lost" ∧
      NamesRing "spare" (session.serve (.load naming none)).1 ∧
      ∀ expression, CommandLine.evalCommand session.rings { ring := "spare" } expression none =
        CommandLine.evalIn (counting 1).1 { ring := "spare" } expression := by
  intro plain counting naming session
  obtain ⟨knows, lacks, -, -, -, -, -, names, evaluates, -⟩ := registrations_decide plain 0
    [.register "spare" plain, .take "lost", .load naming none, .register "spare" counting,
      .take "spare", .names]
  have spare := knows "spare" counting ⟨[.register "int" plain, .register "spare" plain,
    .take "lost", .load naming none], [.take "spare", .names], rfl, by simp⟩
  obtain ⟨packed, taken, evaluated⟩ := evaluates [.register "spare" plain, .take "lost"] naming none
    [.register "spare" counting, .take "spare", .names] { ring := "spare" } rfl rfl
  have same := SessionAnswer.ring.inj
    (taken.symm.trans (congrArg Prod.fst spare.taken))
  refine ⟨rfl, congrArg Prod.fst spare.taken, congrArg (·.2.world) spare.taken,
    lacks "lost" (by simp), (names "spare" naming none [] (.absent rfl) rfl).mpr spare.accepted, ?_⟩
  rw [same] at evaluated
  exact evaluated

end Session

end RingCalc
