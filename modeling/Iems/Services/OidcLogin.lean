import Iems.Services.Oidc
import Mathlib.Data.List.Perm.Subperm

/-! Each login start is exchanged at most once, with its own verifier, whatever callbacks arrive. -/
namespace Iems.Services
open Lib Iems.Core Iems.Security

def startsLogin (cfg : Settings) : Bool := cfg.oidcEnabled && cfg.oidcIssuer != "" && cfg.oidcClientId != ""

def startedLogin (cfg : Settings) : OidcEvent → Option (Text × Text)
  | .beginLogin state verifier => if startsLogin cfg then some (state, verifier) else none
  | .beginLoginDiscovered state verifier _ => some (state, verifier)
  | _ => none

/-- The states that login starts made pending, with the verifiers drawn together with them. -/
def startedLogins (cfg : Settings) (events : List OidcEvent) : List (Text × Text) := events.filterMap (startedLogin cfg)

def ticketOp (cfg : Settings) (event : OidcEvent) : Option (TicketOp Text Text) :=
  match event with
  | .callback _ state => some (.redeem state)
  | event => (startedLogin cfg event).map fun login => .issue login.1 login.2

def OidcState.tickets (s : OidcState) : Tickets Text Text := ⟨s.pending, s.taken⟩

section
variable {lowering : Lowering} {str : Claim → Text} {decodePayload : Text → Except OidcError Claims}
  {challenge : Text → Text} {hmacSha256 : String → String → Bytes} {cfg : Settings}

theorem beginLogin_started (pending : Dict Text Text) (state verifier : Text) (starts : startsLogin cfg = true) :
    beginLogin challenge cfg pending state verifier = .ok (pending.set state verifier,
      authorizeRequest challenge cfg (rstripSlash cfg.oidcIssuer ++ keycloakPath) state verifier) := by
  simp only [startsLogin, Bool.and_eq_true, bne_iff_ne, ne_eq] at starts
  obtain ⟨⟨enabled, issuer⟩, client⟩ := starts
  simp [beginLogin, enabled, issuer, client]

theorem beginLogin_refused (pending : Dict Text Text) (state verifier : Text) (starts : startsLogin cfg = false) :
    ∃ error, beginLogin challenge cfg pending state verifier = .error error := by
  unfold beginLogin
  split
  · exact ⟨_, rfl⟩
  · split
    · exact ⟨_, rfl⟩
    · rename_i enabled missing
      simp_all [startsLogin]

theorem oidcStep_beginLogin (s : OidcState) (state verifier : Text) :
    oidcStep lowering str decodePayload challenge hmacSha256 cfg s (.beginLogin state verifier) =
      if startsLogin cfg then { s with pending := s.pending.set state verifier } else s := by
  cases starts : startsLogin cfg with
  | true => simp only [oidcStep, beginLogin_started _ _ _ starts, if_true]
  | false =>
    obtain ⟨error, refused⟩ := @beginLogin_refused challenge _ s.pending state verifier starts
    simp only [oidcStep, refused, Bool.false_eq_true, if_false]

theorem takeState_missing {s : OidcState} {code state : Text} (missing : s.pending.get? state = none) :
    takeState s code state = { s with results := s.results ++ [.error (.oidc "Invalid or expired OIDC state")] } := by
  simp only [takeState, missing]

theorem takeState_held {s : OidcState} {code state verifier : Text} (held : s.pending.get? state = some verifier) :
    takeState s code state =
      { s with
        pending := s.pending.erase state
        taken := s.taken ++ [(state, verifier)]
        discovering := s.discovering ++ [⟨code, state, verifier⟩] } := by
  simp only [takeState, held]

theorem postCode_cases (s : OidcState) (index : Nat) (reply : Except String OidcDiscovery) :
    postCode cfg s index reply = s ∨
      ∃ flight, s.discovering[index]? = some flight ∧
        ((∃ message, postCode cfg s index reply =
            { s with discovering := s.discovering.eraseIdx index, results := s.results ++ [.error message] }) ∨
          ∃ tokenUrl, postCode cfg s index reply =
            { s with
              discovering := s.discovering.eraseIdx index
              exchanging := s.exchanging ++ [flight]
              posts := s.posts ++ [(flight, tokenPost cfg tokenUrl flight)] }) := by
  unfold postCode
  cases found : s.discovering[index]? with
  | none => exact Or.inl rfl
  | some flight =>
    refine Or.inr ⟨flight, rfl, ?_⟩
    cases discover cfg reply with
    | error message => exact Or.inl ⟨_, rfl⟩
    | ok disc => exact Or.inr ⟨_, rfl⟩

theorem takeReply_frame (s : OidcState) (index : Nat) (reply : Except Unit TokenReply) (now : ℚ) :
    let after := takeReply lowering str decodePayload hmacSha256 cfg s index reply now
    after.pending = s.pending ∧ after.taken = s.taken ∧ after.discovering = s.discovering ∧ after.posts = s.posts := by
  unfold takeReply
  cases s.exchanging[index]? with
  | none => exact ⟨rfl, rfl, rfl, rfl⟩
  | some flight => exact ⟨rfl, rfl, rfl, rfl⟩

/-- The pending states move as tickets do: a login start issues one, a callback redeems one. -/
theorem oidcStep_tickets (s : OidcState) (event : OidcEvent) :
    (oidcStep lowering str decodePayload challenge hmacSha256 cfg s event).tickets =
      ((ticketOp cfg event).toList.foldl Tickets.step s.tickets) := by
  cases event with
  | beginLogin state verifier =>
    rw [oidcStep_beginLogin]
    simp only [ticketOp, startedLogin]
    split <;> rfl
  | beginLoginDiscovered state verifier reply => rfl
  | callback code state =>
    show (takeState s code state).tickets = s.tickets.step (.redeem state)
    cases held : s.pending.get? state with
    | none =>
      rw [takeState_missing held, @Tickets.redeem_missing _ _ _ s.tickets _ held]
      rfl
    | some verifier =>
      rw [takeState_held held, @Tickets.redeem_held _ _ _ s.tickets _ _ held]
      rfl
  | discovered index reply =>
    show (postCode cfg s index reply).tickets = s.tickets
    rcases @postCode_cases cfg s index reply with same | ⟨flight, _, ⟨message, failed⟩ | ⟨tokenUrl, posted⟩⟩
    · rw [same]
    · rw [failed]
      rfl
    · rw [posted]
      rfl
  | answered index reply now =>
    obtain ⟨pending, taken, _, _⟩ := @takeReply_frame lowering str decodePayload hmacSha256 cfg s index
      reply now
    show OidcState.tickets (takeReply lowering str decodePayload hmacSha256 cfg s index reply now) = s.tickets
    unfold OidcState.tickets
    rw [pending, taken]

theorem oidcRun_tickets (s : OidcState) (events : List OidcEvent) :
    (run (oidcStep lowering str decodePayload challenge hmacSha256 cfg) s events).tickets =
      run Tickets.step s.tickets (events.filterMap (ticketOp cfg)) := by
  induction events generalizing s with
  | nil => rfl
  | cons event rest ih =>
    rw [run_cons, ih, oidcStep_tickets]
    cases op : ticketOp cfg event with
    | none =>
      rw [List.filterMap_cons_none op]
      rfl
    | some op' =>
      rw [List.filterMap_cons_some op]
      rfl

theorem issued_ticketOps (events : List OidcEvent) :
    Tickets.issued (events.filterMap (ticketOp cfg)) = startedLogins cfg events := by
  unfold Tickets.issued startedLogins
  rw [List.filterMap_filterMap]
  congr 1
  funext event
  cases event with
  | callback code state => rfl
  | beginLogin state verifier =>
    simp only [ticketOp, startedLogin]
    split <;> rfl
  | _ => rfl

/-! ### The requests to the token endpoint -/

def Flight.login (flight : Flight) : Text × Text := (flight.state, flight.verifier)

/-- Every request and every callback still in its discovery has a taken state of its own. -/
structure Posting (s : OidcState) : Prop where
  own : ((s.posts.map Prod.fst ++ s.discovering).map Flight.login).Subperm s.taken
  verifier : ∀ entry ∈ s.posts, entry.2.codeVerifier = entry.1.verifier

theorem posting_move {s : OidcState} {index : Nat} {flight : Flight} (found : s.discovering[index]? = some flight) :
    (s.posts.map Prod.fst ++ s.discovering).Perm ((s.posts.map Prod.fst ++ [flight]) ++ s.discovering.eraseIdx index) := by
  obtain ⟨inside, rfl⟩ := List.getElem?_eq_some_iff.mp found
  rw [List.append_assoc]
  exact (List.getElem_cons_eraseIdx_perm inside).symm.append_left _

/-- A discovery that fails drops its callback, one that succeeds turns it into a request. -/
theorem posting_postCode {s : OidcState} (index : Nat) (reply : Except String OidcDiscovery) (posting : Posting s) :
    Posting (postCode cfg s index reply) := by
  rcases @postCode_cases cfg s index reply with same | ⟨flight, found, ⟨message, failed⟩ | ⟨tokenUrl, posted⟩⟩
  · rw [same]
    exact posting
  · rw [failed]
    refine ⟨?_, posting.verifier⟩
    exact (((List.eraseIdx_sublist _ _).append_left _).map _).subperm.trans posting.own
  · rw [posted]
    refine ⟨?_, ?_⟩
    · have moved : List.map Prod.fst (s.posts ++ [(flight, tokenPost cfg tokenUrl flight)]) =
          s.posts.map Prod.fst ++ [flight] := List.map_append
      simp only [moved]
      exact ((posting_move found).map Flight.login).symm.subperm.trans posting.own
    · intro entry member
      rcases List.mem_append.mp member with earlier | now
      · exact posting.verifier entry earlier
      · rw [List.mem_singleton.mp now]
        rfl

theorem posting_step (s : OidcState) (event : OidcEvent) (posting : Posting s) :
    Posting (oidcStep lowering str decodePayload challenge hmacSha256 cfg s event) := by
  cases event with
  | beginLogin state verifier =>
    rw [oidcStep_beginLogin]
    split
    · exact ⟨posting.own, posting.verifier⟩
    · exact posting
  | beginLoginDiscovered state verifier reply => exact ⟨posting.own, posting.verifier⟩
  | callback code state =>
    show Posting (takeState s code state)
    cases held : s.pending.get? state with
    | none =>
      rw [takeState_missing held]
      exact ⟨posting.own, posting.verifier⟩
    | some verifier =>
      rw [takeState_held held]
      refine ⟨?_, posting.verifier⟩
      show (List.map Flight.login (_ ++ (_ ++ _))).Subperm (s.taken ++ _)
      rw [← List.append_assoc, List.map_append]
      exact posting.own.append (List.Subperm.refl _)
  | discovered index reply => exact posting_postCode index reply posting
  | answered index reply now =>
    obtain ⟨_, taken, discovering, posts⟩ := @takeReply_frame lowering str decodePayload hmacSha256 cfg s index
      reply now
    show Posting (takeReply lowering str decodePayload hmacSha256 cfg s index reply now)
    refine ⟨?_, ?_⟩
    · rw [posts, discovering, taken]
      exact posting.own
    · rw [posts]
      exact posting.verifier

theorem posting_run (events : List OidcEvent) :
    Posting (run (oidcStep lowering str decodePayload challenge hmacSha256 cfg) {} events) := by
  refine run_invariant (fun s event held => posting_step s event held) ⟨?_, ?_⟩
  · exact List.Subperm.refl _
  · intro entry member
    cases member

end

section
variable (lowering : Lowering) (str : Claim → Text) (decodePayload : Text → Except OidcError Claims)
  (challenge : Text → Text) (hmacSha256 : String → String → Bytes) (cfg : Settings)

abbrev oidcRun (events : List OidcEvent) : OidcState :=
  run (oidcStep lowering str decodePayload challenge hmacSha256 cfg) {} events

/-- A callback that is refused, and what it leaves alone. -/
def refuseState (s : OidcState) : OidcState :=
  { s with results := s.results ++ [.error (.oidc "Invalid or expired OIDC state")] }

variable {lowering str decodePayload challenge hmacSha256 cfg}

theorem oidcRun_tickets_sound (events : List OidcEvent) :
    (oidcRun lowering str decodePayload challenge hmacSha256 cfg events).tickets =
      run Tickets.step .empty (events.filterMap (ticketOp cfg)) :=
  oidcRun_tickets {} events

theorem posts_started {events : List OidcEvent} (distinct : ((startedLogins cfg events).map Prod.fst).Nodup) :
    let s := oidcRun lowering str decodePayload challenge hmacSha256 cfg events
    (∀ entry ∈ s.posts, (entry.1.state, entry.2.codeVerifier) ∈ startedLogins cfg events) ∧
      (s.posts.map fun entry => entry.1.state).Nodup := by
  have posting := @posting_run lowering str decodePayload challenge hmacSha256 cfg events
  rw [← issued_ticketOps] at distinct
  have sound := Tickets.run_sound _ distinct
  rw [← @oidcRun_tickets_sound lowering str decodePayload challenge hmacSha256] at sound
  intro s
  have posted : ((s.posts.map Prod.fst).map Flight.login).Subperm s.taken :=
    (List.Sublist.map _ (List.sublist_append_left _ _)).subperm.trans posting.own
  refine ⟨?_, ?_⟩
  · intro entry member
    rw [posting.verifier entry member]
    rw [← issued_ticketOps]
    exact sound.spent_issued _ (posted.subset (List.mem_map_of_mem (List.mem_map_of_mem member)))
  · obtain ⟨chosen, perm, sublist⟩ := posted
    have once := (perm.map Prod.fst).nodup_iff.mp (sound.spent_once.sublist (sublist.map Prod.fst))
    simpa [List.map_map, Function.comp_def, Flight.login] using once

end

/-- In every run of login starts and callbacks, a token request carries the state of an earlier login start and
its verifier, no state is exchanged twice, and an unknown or used state is refused without effect. -/
theorem exchange_once (lowering : Lowering) (str : Claim → Text) (decodePayload : Text → Except OidcError Claims)
    (challenge : Text → Text) (hmacSha256 : String → String → Bytes) (cfg : Settings) (events : List OidcEvent)
    (distinct : ((startedLogins cfg events).map Prod.fst).Nodup) :
    (∀ before, before <+: events →
      let s := oidcRun lowering str decodePayload challenge hmacSha256 cfg before
      (∀ entry ∈ s.posts, (entry.1.state, entry.2.codeVerifier) ∈ startedLogins cfg before) ∧
        (s.posts.map fun entry => entry.1.state).Nodup) ∧
    ∀ before code state after, events = before ++ .callback code state :: after →
      (state ∉ (startedLogins cfg before).map Prod.fst ∨
        ∃ first code' between, before = first ++ .callback code' state :: between ∧
          state ∈ (startedLogins cfg first).map Prod.fst) →
      oidcRun lowering str decodePayload challenge hmacSha256 cfg (before ++ [.callback code state]) =
        refuseState (oidcRun lowering str decodePayload challenge hmacSha256 cfg before) := by
  have distinctBefore : ∀ before, before <+: events → ((startedLogins cfg before).map Prod.fst).Nodup :=
    fun before early => distinct.sublist ((early.sublist.filterMap _).map _)
  refine ⟨fun before early => posts_started (distinctBefore before early), ?_⟩
  intro before code state after split stale
  have early : before <+: events := ⟨_, split.symm⟩
  have missing : (oidcRun lowering str decodePayload challenge hmacSha256 cfg before).pending.get? state = none := by
    have held := @oidcRun_tickets_sound lowering str decodePayload challenge hmacSha256 cfg before
    have gone := @Tickets.refused _ _ _ (before.filterMap (ticketOp cfg)) state
    rw [issued_ticketOps, ← held] at gone
    refine gone (distinctBefore before early) (stale.imp_right ?_)
    rintro ⟨first, code', between, rfl, known⟩
    refine ⟨first.filterMap (ticketOp cfg), between.filterMap (ticketOp cfg), ?_, ?_⟩
    · rw [List.filterMap_append]
      rfl
    · rwa [issued_ticketOps]
  show run _ _ _ = _
  rw [run_snoc]
  exact takeState_missing missing

def oidcCfg : Settings := { oidcEnabled := true, oidcIssuer := "https://idp", oidcClientId := "iems" }

def idpDiscovery : OidcDiscovery := ⟨"https://idp/auth", "https://idp/token", "https://idp"⟩

/-- Two overlapping logins, of which one is called back twice. -/
def overlappingLogins : List OidcEvent :=
  [.beginLogin [1] [11], .beginLoginDiscovered [2] [12] (.error "unreachable"), .callback [7] [2],
    .discovered 0 (.ok idpDiscovery)]

theorem exchange_once_overlapping :
    let s := oidcRun asciiLowering (fun _ => []) (fun _ => .error .raised) id oneByte oidcCfg overlappingLogins
    ((∀ entry ∈ s.posts, (entry.1.state, entry.2.codeVerifier) ∈ startedLogins oidcCfg overlappingLogins) ∧
        (s.posts.map fun entry => entry.1.state).Nodup) ∧
      oidcRun asciiLowering (fun _ => []) (fun _ => .error .raised) id oneByte oidcCfg
          (overlappingLogins ++ [.callback [8] [2]]) = refuseState s := by
  have once := exchange_once asciiLowering (fun _ => []) (fun _ => .error .raised) id oneByte oidcCfg
    (overlappingLogins ++ [.callback [8] [2]]) (by decide)
  refine ⟨once.1 overlappingLogins (List.prefix_append _ _), once.2 overlappingLogins [8] [2] [] rfl (Or.inr ?_)⟩
  exact ⟨overlappingLogins.take 2, [7], overlappingLogins.drop 3, rfl, by decide⟩

end Iems.Services
