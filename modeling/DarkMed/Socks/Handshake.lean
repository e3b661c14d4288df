import DarkMed.Socks.ClientAccepts
import DarkMed.Socks.ServerAccepts

/-!
# The Handshake of a Client and a Server

The client and the server of the library, at the two ends of a connection.

* Every interleaving of the two comes to the same end, in which both have ended and agree on
  whether there is a session, and on which one (`handshake_ends`); the two modes of the client end
  alike.
* Calls may fail: a server never serves anything but what the client has asked for, for a user
  whose credentials are the client's (`agreed_of_served`).
-/

namespace DarkMed.Socks

open DarkMed.Lib.Wire DarkMed.Lib.Wire.Proc DarkMed.Lib.Transition

/-- What goes over the wire of a user name or of a password. -/
def onWire (s : List UInt8) : List UInt8 := s.take (UInt8.ofNat s.length).toNat

/-- What the server grants a client that it knows as `user`. -/
def grant (client : HevSocks5Client) (server : HevSocks5Server) (user : Option HevSocks5User) :
    Option Service :=
  (HevSocks5Client.reqCmd client.type).bind fun cmd =>
    if (server.serve (server.received cmd client.upstreamAddr)).1 = resRepSucc then
      some ⟨(server.serve (server.received cmd client.upstreamAddr)).2.1, user,
        (server.serve (server.received cmd client.upstreamAddr)).2.2⟩
    else none

/-- What a client and a server should agree on. -/
def agreed (client : HevSocks5Client) (server : HevSocks5Server) : Option Service :=
  if client.method ≠ server.method then none
  else
    match server.auth, client.user, client.pass with
    | none, _, _ => grant client server none
    | some auth, some user, some pass =>
      (HevSocks5Server.lookup auth (onWire user) (onWire pass)).bind fun user =>
        grant client server (some user)
    | some _, _, _ => none

/-- Whether the client takes it. -/
def taken (client : HevSocks5Client) (service : Option Service) : Bool :=
  service.any fun service => client.setUpstreamAddr (addrFromSockaddr6 service.addr)

/-! ## The messages fit together -/

/-- A text is cut to what its length byte says. -/
theorem length_onWire (s : List UInt8) : (onWire s).length = s.length % 256 := by
  rw [onWire, List.length_take, UInt8.toNat_ofNat']
  exact Nat.min_eq_left (Nat.mod_le _ _)

theorem length_onWire_lt (s : List UInt8) : (onWire s).length < 256 := by
  rw [length_onWire]
  exact Nat.mod_lt _ (by decide)

/-- The length byte is that of what goes over the wire. -/
theorem ofNat_length_onWire (s : List UInt8) :
    UInt8.ofNat (onWire s).length = UInt8.ofNat s.length := by
  rw [length_onWire]
  apply UInt8.toNat_inj.mp
  simp

/-- The client's credentials are those of the name and the password that go over the wire. -/
theorem authCreds_eq (user pass : List UInt8) :
    HevSocks5Client.authCreds user pass =
      [authVersion1, UInt8.ofNat (onWire user).length] ++ onWire user ++
        (UInt8.ofNat (onWire pass).length :: onWire pass) := by
  rw [ofNat_length_onWire, ofNat_length_onWire]
  rfl

/-- The server answers with an address that a client lets through. -/
theorem isNumeric_addrFromSockaddr6 (saddr : SockaddrIn6) :
    HevSocks5Client.IsNumeric (addrFromSockaddr6 saddr) := by
  unfold addrFromSockaddr6
  split
  · trivial
  · trivial

/-! ## One run -/

section Runs

variable {client : HevSocks5Client} {server : HevSocks5Server}

open Duplex HevSocks5Client HevSocks5Server

theorem grant_of_reqCmd (server : HevSocks5Server) {cmd : UInt8} (hcmd : reqCmd client.type = some cmd)
    (user : Option HevSocks5User) :
    grant client server user =
      if (server.serve (server.received cmd client.upstreamAddr)).1 = resRepSucc then
        some ⟨(server.serve (server.received cmd client.upstreamAddr)).2.1, user,
          (server.serve (server.received cmd client.upstreamAddr)).2.2⟩
      else none := by
  rw [grant, hcmd]
  rfl

/-- The request is on its way, and the client waits for the answer. -/
theorem reach_response (server : HevSocks5Server) {cmd : UInt8} (hcmd : reqCmd client.type = some cmd)
    (user : Option HevSocks5User) :
    ∃ down, Reach ⟨client.readResponse, server.handle user, request cmd client.upstreamAddr, []⟩
        ⟨.done (taken client (grant client server user)), .done (grant client server user), [],
          down⟩ ∧
      (grant client server user ≠ none → down = []) := by
  have hserver := reach_right (exec_handle undisturbed_go server user cmd 0
    client.upstreamAddr) client.readResponse [] []
  rw [List.append_nil, List.nil_append, ← grant_of_reqCmd server hcmd] at hserver
  have hgrant := grant_of_reqCmd server hcmd user
  generalize server.serve (server.received cmd client.upstreamAddr) = served at hserver hgrant
  obtain ⟨rep, type, addr⟩ := served
  -- a success is read to its end, a refusal is not
  by_cases hrep : rep = resRepSucc
  · subst hrep
    rw [if_pos rfl] at hgrant
    have hclient := reach_left (exec_readResponse undisturbed_go client 0
      (isNumeric_addrFromSockaddr6 addr)) (.done (grant client server user)) [] []
    rw [List.append_nil, List.append_nil] at hclient
    refine ⟨[], ?_, fun _ => rfl⟩
    have htaken : taken client (grant client server user) =
        client.setUpstreamAddr (addrFromSockaddr6 addr) := by
      rw [hgrant]
      rfl
    rw [htaken]
    exact hserver.trans hclient
  · rw [if_neg hrep] at hgrant
    obtain ⟨atype, rest, hbytes⟩ : ∃ atype rest,
        (addrFromSockaddr6 addr).bytes = atype :: rest := by
      cases addrFromSockaddr6 addr with
      | ipv4 a port => exact ⟨_, _, rfl⟩
      | ipv6 a port => exact ⟨_, _, rfl⟩
      | name a port => exact ⟨_, _, rfl⟩
    have hclient := reach_left (exec_readResponse_refused undisturbed_go client hrep 0
      atype) (.done (grant client server user)) [] rest
    rw [List.append_nil] at hclient
    refine ⟨rest, ?_, fun h => absurd hgrant h⟩
    have hresponse : response rep addr = [version5, rep, 0, atype] ++ rest := by
      rw [response, hbytes]
      rfl
    have htaken : taken client (grant client server user) = false := by
      rw [hgrant]
      rfl
    rw [htaken]
    rw [hresponse] at hserver
    exact hserver.trans hclient

/-! ### The server, one message after the other -/

/-- What is left of the server's handshake behind the greeting, if there are users. -/
def serverTail (server : HevSocks5Server) (auth : HevSocks5Authenticator) :
    Proc (Option Service) := do
  let auth ← authUser auth
  match auth with
  | none => return none
  | some user => server.handle user

/-- A greeting without the server's method ends the handshake. -/
theorem exec_server_deny (hmethod : client.method ≠ server.method) :
    Exec Undisturbed server.handshake client.authMethods [version5, authMethodDeny]
      (.done none) := by
  have hmem : server.method ∉ [client.method] := by simpa using fun h => hmethod h.symm
  exact (exec_greeting_deny undisturbed_go server (by simp) hmem).then _

/-- Without users the request comes next. -/
theorem exec_server_none (hmethod : client.method = server.method) (hauth : server.auth = none) :
    Exec Undisturbed server.handshake client.authMethods [version5, authMethodNone]
      (server.handle none) := by
  have hmem : server.method ∈ [client.method] := by simp [hmethod]
  have hgreet := exec_greeting undisturbed_go server (by simp) hmem
  have hnone : server.method = authMethodNone := by simp [HevSocks5Server.method, hauth]
  rw [hauth, hnone] at hgreet
  exact hgreet.then _

/-- With users the credentials come next. -/
theorem exec_server_user (hmethod : client.method = server.method)
    {auth : HevSocks5Authenticator} (hauth : server.auth = some auth) :
    Exec Undisturbed server.handshake client.authMethods [version5, authMethodUser]
      (serverTail server auth) := by
  have hmem : server.method ∈ [client.method] := by simp [hmethod]
  have hgreet := exec_greeting undisturbed_go server (by simp) hmem
  have huser : server.method = authMethodUser := by simp [HevSocks5Server.method, hauth]
  rw [hauth, huser] at hgreet
  exact hgreet.then _

/-- The answer to the credentials. -/
def verdict (user : Option HevSocks5User) : List UInt8 :=
  [authVersion1, if user.isSome then 0 else 255]

/-- The credentials are judged by what has come over the wire, and are read to their end unless they
    are refused. -/
theorem exec_server_creds (server : HevSocks5Server) (auth : HevSocks5Authenticator) (user pass : List UInt8) :
    ∃ c rest, authCreds user pass = c ++ rest ∧
      Exec Undisturbed (serverTail server auth) c (verdict (lookup auth (onWire user) (onWire pass)))
        (match lookup auth (onWire user) (onWire pass) with
          | none => .done none
          | some user => server.handle (some user)) ∧
      (lookup auth (onWire user) (onWire pass) ≠ none → rest = []) := by
  obtain ⟨c, rest, hbytes, hexec, hrest⟩ := exec_authUser undisturbed_go auth
    (length_onWire_lt user) (length_onWire_lt pass)
  rw [← authCreds_eq] at hbytes
  refine ⟨c, rest, hbytes, ?_, hrest⟩
  have htail : Exec Undisturbed (serverTail server auth) c _ _ := hexec.then _
  -- the verdict decides how the server goes on
  cases hlookup : lookup auth (onWire user) (onWire pass) with
  | none =>
    rw [hlookup] at htail
    exact htail
  | some found =>
    rw [hlookup] at htail
    exact htail

/-! ### The client, one message after the other -/

/-- What is left of the standard handshake behind the greeting. -/
def standardTail (client : HevSocks5Client) : Proc Bool := do
  let res ← readAuthMethod
  (client.standardAuth res).andThen (client.writeRequest.andThen client.readResponse)

/-- What is left of the pipelined handshake when everything has been written. -/
def pipelineTail (client : HevSocks5Client) : Proc Bool := do
  let res ← readAuthMethod
  (pipelineAuth res).andThen client.readResponse

/-- The standard handshake sends its greeting and waits. -/
theorem exec_standard_start :
    Exec Undisturbed client.handshakeStandard [] client.authMethods (standardTail client) := by
  have h : Exec Undisturbed client.handshakeStandard ([] ++ []) (client.authMethods ++ []) _ :=
    (exec_writeAuthMethods undisturbed_go client).andThen_true (.refl (standardTail client))
  rwa [List.append_nil, List.append_nil] at h

/-- A refused greeting ends the standard handshake. -/
theorem exec_standard_deny :
    Exec Undisturbed (standardTail client) [version5, authMethodDeny] [] (.done false) :=
  (exec_readAuthMethod undisturbed_go authMethodDeny).trans (.refl _)

section Request

variable {cmd : UInt8} (hcmd : reqCmd client.type = some cmd)
include hcmd

/-- The request goes out, and the response is waited for. -/
theorem exec_request :
    Exec Undisturbed (client.writeRequest.andThen client.readResponse) []
      (request cmd client.upstreamAddr) client.readResponse := by
  have h := (exec_writeRequest undisturbed_go client hcmd).andThen_true (.refl client.readResponse)
  simpa only [List.append_nil] using h

/-- Without a need for credentials the request follows the greeting. -/
theorem exec_standard_none :
    Exec Undisturbed (standardTail client) [version5, authMethodNone]
      (request cmd client.upstreamAddr) client.readResponse :=
  (exec_readAuthMethod undisturbed_go authMethodNone).trans (exec_request hcmd)

/-- Accepted credentials are followed by the request. -/
theorem exec_standard_accepted :
    Exec Undisturbed (readAuthCreds.andThen (client.writeRequest.andThen client.readResponse))
      [authVersion1, 0] (request cmd client.upstreamAddr) client.readResponse :=
  (exec_readAuthCreds undisturbed_go 0).andThen_true (exec_request hcmd)

/-- The pipelined handshake sends greeting, credentials and request at once. -/
theorem exec_pipeline_start :
    Exec Undisturbed client.handshakePipeline []
      (client.authMethods ++ (client.credsBytes ++ request cmd client.upstreamAddr))
      (pipelineTail client) := by
  have h := (exec_writeAuthMethods undisturbed_go client).andThen_true
    ((exec_writeAuthCreds undisturbed_go client).andThen_true
      ((exec_writeRequest undisturbed_go client hcmd).andThen_true (.refl (pipelineTail client))))
  simp only [List.append_nil] at h
  exact h

end Request

/-- Credentials that are asked for are sent. -/
theorem exec_standard_user :
    Exec Undisturbed (standardTail client) [version5, authMethodUser] client.credsBytes
      (readAuthCreds.andThen (client.writeRequest.andThen client.readResponse)) := by
  have hcreds := (exec_writeAuthCreds undisturbed_go client).andThen_true (.refl readAuthCreds)
  simp only [List.append_nil] at hcreds
  exact (exec_readAuthMethod undisturbed_go authMethodUser).trans (hcreds.then _)

/-- Refused credentials end the standard handshake before the request. -/
theorem exec_standard_refused :
    Exec Undisturbed (readAuthCreds.andThen (client.writeRequest.andThen client.readResponse))
      [authVersion1, 255] [] (.done false) :=
  (exec_readAuthCreds undisturbed_go 255).andThen_false _

theorem exec_pipeline_deny :
    Exec Undisturbed (pipelineTail client) [version5, authMethodDeny] [] (.done false) :=
  (exec_readAuthMethod undisturbed_go authMethodDeny).trans (.refl _)

theorem exec_pipeline_none :
    Exec Undisturbed (pipelineTail client) [version5, authMethodNone] [] client.readResponse :=
  (exec_readAuthMethod undisturbed_go authMethodNone).trans (.refl _)

/-- Refused credentials end the pipelined handshake, whose request has been sent and is never
    read. -/
theorem exec_pipeline_refused :
    Exec Undisturbed (pipelineTail client) [version5, authMethodUser, authVersion1, 255] []
      (.done false) :=
  (exec_readAuthMethod undisturbed_go authMethodUser).trans
    ((exec_readAuthCreds undisturbed_go 255).andThen_false _)

/-- Accepted credentials leave only the response to be read. -/
theorem exec_pipeline_accepted :
    Exec Undisturbed (pipelineTail client) [version5, authMethodUser, authVersion1, 0] []
      client.readResponse :=
  (exec_readAuthMethod undisturbed_go authMethodUser).trans
    ((exec_readAuthCreds undisturbed_go 0).andThen_true (.refl client.readResponse))

/-! ### Both together -/

theorem agreed_of_ne (hmethod : client.method ≠ server.method) : agreed client server = none :=
  if_pos hmethod

theorem agreed_none (hmethod : client.method = server.method) (hauth : server.auth = none) :
    agreed client server = grant client server none := by
  rw [agreed, if_neg (not_not.mpr hmethod), hauth]

/-- With users the two agree on what the client's user is granted. -/
theorem agreed_user (hmethod : client.method = server.method) {auth : HevSocks5Authenticator}
    (hauth : server.auth = some auth) {user pass : List UInt8} (huser : client.user = some user)
    (hpass : client.pass = some pass) :
    agreed client server = (lookup auth (onWire user) (onWire pass)).bind fun user =>
      grant client server (some user) := by
  rw [agreed, if_neg (not_not.mpr hmethod), hauth, huser, hpass]

/-- A client that agrees with a server with users has credentials. -/
theorem exists_creds (hmethod : client.method = server.method) {auth : HevSocks5Authenticator}
    (hauth : server.auth = some auth) :
    ∃ user pass, client.user = some user ∧ client.pass = some pass ∧
      client.credsBytes = authCreds user pass := by
  have huser : client.method = authMethodUser := by
    rw [hmethod, HevSocks5Server.method, hauth]
    rfl
  -- without one of the two the client would offer the other method
  cases hu : client.user with
  | none => simp [HevSocks5Client.method, hu, authMethodNone, authMethodUser] at huser
  | some user =>
    cases hp : client.pass with
    | none => simp [HevSocks5Client.method, hp, authMethodNone, authMethodUser] at huser
    | some pass => exact ⟨user, pass, rfl, rfl, by rw [credsBytes, hu, hp]⟩

/-- A client without a need for them sends no credentials. -/
theorem credsBytes_of_none (hmethod : client.method = server.method) (hauth : server.auth = none) :
    client.credsBytes = [] := by
  have hnone : client.method = authMethodNone := by
    rw [hmethod, HevSocks5Server.method, hauth]
    rfl
  -- with both of them the client would offer the method of users
  cases hu : client.user with
  | none => rw [credsBytes, hu]
  | some user =>
    cases hp : client.pass with
    | none => rw [credsBytes, hu, hp]
    | some pass =>
      simp [HevSocks5Client.method, hu, hp, authMethodNone, authMethodUser] at hnone

/-- The end of a handshake: the two agree, and if there is a session, nothing is left over. -/
def Ends (client : HevSocks5Client) (server : HevSocks5Server) (s : Duplex Bool (Option Service)) :
    Prop :=
  ∃ up down, Reach s ⟨.done (taken client (agreed client server)), .done (agreed client server),
    up, down⟩ ∧ (agreed client server ≠ none → up = [] ∧ down = [])

/-- A part of the client's run in front of the end. -/
theorem Ends.left {p p' : Proc Bool} {q : Proc (Option Service)}
    {c w up up' down inbox : List UInt8} (h : Exec Undisturbed p c w p') (hin : inbox = c ++ down)
    (hout : up ++ w = up') (hend : Ends client server ⟨p', q, up', down⟩) :
    Ends client server ⟨p, q, up, inbox⟩ := by
  subst hin hout
  obtain ⟨up', down', hreach, hempty⟩ := hend
  exact ⟨up', down', (reach_left h q up down).trans hreach, hempty⟩

/-- A part of the server's run in front of the end. -/
theorem Ends.right {p : Proc Bool} {q q' : Proc (Option Service)}
    {c w up down down' inbox : List UInt8} (h : Exec Undisturbed q c w q') (hin : inbox = c ++ up)
    (hout : down ++ w = down') (hend : Ends client server ⟨p, q', up, down'⟩) :
    Ends client server ⟨p, q, inbox, down⟩ := by
  subst hin hout
  obtain ⟨up', down', hreach, hempty⟩ := hend
  exact ⟨up', down', (reach_right h p up down).trans hreach, hempty⟩

/-- Where there is no session, both have ended already. -/
theorem ends_of_none (hagreed : agreed client server = none) (up down : List UInt8) :
    Ends client server ⟨.done false, .done none, up, down⟩ := by
  refine ⟨up, down, ?_, fun h => absurd hagreed h⟩
  rw [hagreed]
  exact .refl _

/-- With the request in the stream, the two come to the end. -/
theorem ends_of_grant {cmd : UInt8} (hcmd : reqCmd client.type = some cmd)
    {user : Option HevSocks5User} (hagreed : agreed client server = grant client server user) :
    Ends client server
      ⟨client.readResponse, server.handle user, request cmd client.upstreamAddr, []⟩ := by
  obtain ⟨down, hreach, hempty⟩ := reach_response server hcmd user
  rw [← hagreed] at hreach hempty
  exact ⟨[], down, hreach, fun h => ⟨rfl, hempty h⟩⟩

/-- The standard handshake comes to its end, for any client and server. -/
theorem ends_standard {cmd : UInt8} (hcmd : reqCmd client.type = some cmd) :
    Ends client server (.start client.handshakeStandard server.handshake) := by
  -- the two take turns: greeting, answer, credentials, verdict, request, response
  refine .left exec_standard_start rfl rfl ?_
  by_cases hmethod : client.method = server.method
  · cases hauth : server.auth with
    | none =>
      refine .right (exec_server_none hmethod hauth) (List.append_nil _).symm rfl ?_
      refine .left (exec_standard_none hcmd) rfl rfl ?_
      exact ends_of_grant hcmd (agreed_none hmethod hauth)
    | some auth =>
      obtain ⟨user, pass, huser, hpass, hcreds⟩ := exists_creds hmethod hauth
      have hagreed := agreed_user hmethod hauth huser hpass
      obtain ⟨c, rest, hbytes, hserver, hrest⟩ := exec_server_creds server auth user pass
      refine .right (exec_server_user hmethod hauth) (List.append_nil _).symm rfl ?_
      refine .left exec_standard_user rfl rfl ?_
      cases hlookup : lookup auth (onWire user) (onWire pass) with
      | none =>
        rw [hlookup] at hserver hagreed
        refine .right hserver (hcreds.trans hbytes) rfl ?_
        refine .left exec_standard_refused rfl (List.append_nil _) ?_
        exact ends_of_none hagreed _ _
      | some found =>
        rw [hlookup] at hserver hagreed
        obtain rfl := hrest (by simp [hlookup])
        refine .right hserver (hcreds.trans hbytes) rfl ?_
        refine .left (exec_standard_accepted hcmd) rfl rfl ?_
        exact ends_of_grant hcmd hagreed
  · -- the methods differ
    refine .right (exec_server_deny hmethod) (List.append_nil _).symm rfl ?_
    refine .left exec_standard_deny rfl (List.append_nil _) ?_
    exact ends_of_none (agreed_of_ne hmethod) _ _

/-- The pipelined handshake comes to the same end. -/
theorem ends_pipeline {cmd : UInt8} (hcmd : reqCmd client.type = some cmd) :
    Ends client server (.start client.handshakePipeline server.handshake) := by
  -- everything of the client's is in the stream before the server begins
  refine .left (exec_pipeline_start hcmd) rfl rfl ?_
  by_cases hmethod : client.method = server.method
  · cases hauth : server.auth with
    | none =>
      have hcreds := credsBytes_of_none hmethod hauth
      refine .right (exec_server_none hmethod hauth) rfl rfl ?_
      refine .left exec_pipeline_none rfl (List.append_nil _) ?_
      rw [hcreds]
      exact ends_of_grant hcmd (agreed_none hmethod hauth)
    | some auth =>
      obtain ⟨user, pass, huser, hpass, hcreds⟩ := exists_creds hmethod hauth
      have hagreed := agreed_user hmethod hauth huser hpass
      obtain ⟨c, rest, hbytes, hserver, hrest⟩ := exec_server_creds server auth user pass
      have hup : client.credsBytes ++ request cmd client.upstreamAddr =
          c ++ (rest ++ request cmd client.upstreamAddr) := by
        rw [hcreds, hbytes, List.append_assoc]
      refine .right (exec_server_user hmethod hauth) rfl rfl ?_
      cases hlookup : lookup auth (onWire user) (onWire pass) with
      | none =>
        rw [hlookup] at hserver hagreed
        refine .right hserver hup rfl ?_
        refine .left exec_pipeline_refused rfl (List.append_nil _) ?_
        exact ends_of_none hagreed _ _
      | some found =>
        rw [hlookup] at hserver hagreed
        obtain rfl := hrest (by simp [hlookup])
        refine .right hserver hup rfl ?_
        refine .left exec_pipeline_accepted rfl (List.append_nil _) ?_
        exact ends_of_grant hcmd hagreed
  · -- what the client has sent behind its greeting stays in the stream
    refine .right (exec_server_deny hmethod) rfl rfl ?_
    refine .left exec_pipeline_deny rfl (List.append_nil _) ?_
    exact ends_of_none (agreed_of_ne hmethod) _ _

end Runs

/-- **A client and a server come to an agreement.**  As long as no call fails, every interleaving
    of the two, in either mode of the client, comes to the same end after the same number of
    steps: the server serves what they should agree on, the client has taken it, and if there is a
    session, not a byte of what follows has been read. -/
theorem handshake_ends (client : HevSocks5Client) (server : HevSocks5Server) (pipeline : Bool)
    (htype : client.type ≠ .none) :
    ∃ n up down, (agreed client server ≠ none → up = [] ∧ down = []) ∧
      ∀ sides t,
        run Duplex.go (.start (client.handshake pipeline) server.handshake) sides = some t →
        ∃ more, run Duplex.go t more =
            some ⟨.done (taken client (agreed client server)), .done (agreed client server), up,
              down⟩ ∧
          sides.length + more.length = n := by
  obtain ⟨cmd, hcmd⟩ : ∃ cmd, HevSocks5Client.reqCmd client.type = some cmd := by
    cases htype' : client.type with
    | none => exact absurd htype' htype
    | _ => exact ⟨_, rfl⟩
  have hends : Ends client server (.start (client.handshake pipeline) server.handshake) := by
    cases pipeline with
    | false => exact ends_standard hcmd
    | true => exact ends_pipeline hcmd
  obtain ⟨up, down, hreach, hempty⟩ := hends
  -- one run is enough: the two are deterministic
  obtain ⟨n, hall⟩ := Duplex.exists_run_of_reach hreach
  exact ⟨n, up, down, hempty, hall⟩

/-- A client and a server that know each other get to their session, with nothing left over. -/
theorem someClient_ends : ∃ n, ∀ sides t,
    run Duplex.go (.start (someClient.handshake false) someServer.handshake) sides = some t →
    ∃ more, run Duplex.go t more = some ⟨.done true, .done (some someService), [], []⟩ ∧
      sides.length + more.length = n := by
  have hagreed : agreed someClient someServer = some someService := rfl
  obtain ⟨n, up, down, hempty, hall⟩ := handshake_ends someClient someServer false (by decide)
  obtain ⟨rfl, rfl⟩ := hempty (by rw [hagreed]; simp)
  exact ⟨n, hall⟩

/-! ## When calls fail -/

/-- A text behind its length is no front of another one. -/
theorem eq_of_pascal {a b x y : List UInt8} (ha : a.length < 256) (hb : b.length < 256)
    (h : UInt8.ofNat a.length :: (a ++ x) <+: UInt8.ofNat b.length :: (b ++ y)) :
    a = b ∧ x <+: y := by
  obtain ⟨hlen, t, ht⟩ := List.cons_prefix_cons.mp h
  -- the length bytes are the same, and both lengths fit
  have hsame : a.length = b.length := by
    rw [← HevSocks5Server.toNat_ofNat_length ha, hlen, HevSocks5Server.toNat_ofNat_length hb]
  rw [List.append_assoc] at ht
  obtain ⟨hab, hxy⟩ := List.append_inj ht hsame
  exact ⟨hab, t, hxy⟩

/-- No address is the front of another one. -/
theorem eq_of_prefix_bytes {addr addr' : HevSocks5Addr} (h : addr.bytes <+: addr'.bytes) :
    addr = addr' := by
  -- the first byte says the type, and the length byte of a name the rest
  have hlen : addr.addrLen = addr'.addrLen := by
    cases addr with
    | ipv4 a port =>
      cases addr' with
      | ipv4 a' port' => rfl
      | ipv6 a' port' => exact absurd (List.cons_prefix_cons.mp h).1 (by decide)
      | name a' port' => exact absurd (List.cons_prefix_cons.mp h).1 (by decide)
    | ipv6 a port =>
      cases addr' with
      | ipv4 a' port' => exact absurd (List.cons_prefix_cons.mp h).1 (by decide)
      | ipv6 a' port' => rfl
      | name a' port' => exact absurd (List.cons_prefix_cons.mp h).1 (by decide)
    | name a port =>
      cases addr' with
      | ipv4 a' port' => exact absurd (List.cons_prefix_cons.mp h).1 (by decide)
      | ipv6 a' port' => exact absurd (List.cons_prefix_cons.mp h).1 (by decide)
      | name a' port' =>
        have hname := (eq_of_pascal a.2 a'.2 (List.cons_prefix_cons.mp h).2).1
        show 4 + a.1.length = 4 + a'.1.length
        rw [hname]
  have hbytes : addr.bytes = addr'.bytes := by
    refine h.eq_of_length ?_
    rw [HevSocks5Addr.length_bytes, HevSocks5Addr.length_bytes, hlen]
  have hof := HevSocks5Addr.ofBytes_bytes addr'
  rw [← hbytes, HevSocks5Addr.ofBytes_bytes] at hof
  exact Option.some.inj hof

/-- The server reads no request but the client's. -/
theorem grant_of_read {client : HevSocks5Client} {server : HevSocks5Server}
    {user : Option HevSocks5User} {cmd rsv : UInt8} {addr : HevSocks5Addr} {saddr : SockaddrIn6}
    {service : Service} (h : [version5, cmd, rsv] ++ addr.bytes <+: client.requestBytes)
    (hinto : addrIntoSockaddr6 server.resolve addr = some saddr)
    (hserve : server.serve (.accepted cmd saddr) = (resRepSucc, service.type, service.addr))
    (huser : service.user = user) : grant client server user = some service := by
  unfold HevSocks5Client.requestBytes at h
  split at h
  · exact absurd (List.prefix_nil.mp h) (by simp)
  · next cmd' hcmd =>
    obtain ⟨-, hbehind⟩ := List.cons_prefix_cons.mp h
    obtain ⟨rfl, hrsv⟩ := List.cons_prefix_cons.mp hbehind
    -- behind the command the two addresses are fronts of each other
    obtain rfl := eq_of_prefix_bytes (List.cons_prefix_cons.mp hrsv).2
    have hreceived : server.received cmd client.upstreamAddr = .accepted cmd saddr := by
      rw [HevSocks5Server.received, hinto]
    rw [grant_of_reqCmd server hcmd, hreceived, hserve, if_pos rfl, ← huser]

/-- Behind the same greeting come the credentials, if there have to be any, and the request. -/
theorem grant_of_credentials {client : HevSocks5Client} {server : HevSocks5Server}
    {creds : List UInt8} {cmd rsv : UInt8} {addr : HevSocks5Addr} {saddr : SockaddrIn6}
    {service : Service} (hmethod : client.method = server.method)
    (hcreds : HevSocks5Server.Credentials server.auth creds service.user)
    (h : creds ++ ([version5, cmd, rsv] ++ addr.bytes) <+:
        client.credsBytes ++ client.requestBytes ∨
      creds ++ ([version5, cmd, rsv] ++ addr.bytes) <+: client.requestBytes)
    (hinto : addrIntoSockaddr6 server.resolve addr = some saddr)
    (hserve : server.serve (.accepted cmd saddr) = (resRepSucc, service.type, service.addr)) :
    agreed client server = some service := by
  -- without users the request follows at once, in either mode
  cases hauth : server.auth with
  | none =>
    rw [credsBytes_of_none hmethod hauth] at h
    rw [hauth] at hcreds
    generalize huser : service.user = user at hcreds
    cases hcreds
    rw [agreed_none hmethod hauth]
    exact grant_of_read (h.elim id id) hinto hserve huser
  | some auth =>
    obtain ⟨name, pass, hname, hpass, hbytes⟩ := exists_creds hmethod hauth
    rw [hbytes, authCreds_eq] at h
    rw [hauth] at hcreds
    generalize huser : service.user = found at hcreds
    cases hcreds with
    | @user _ user hget hne hpne hnlen hplen =>
      obtain h | h := h
      · -- both are a name and a password, each behind its length
        have hfirst : UInt8.ofNat user.name.length :: (user.name ++
            (UInt8.ofNat user.pass.length :: (user.pass ++ ([version5, cmd, rsv] ++ addr.bytes)))) <+:
            UInt8.ofNat (onWire name).length :: (onWire name ++
              (UInt8.ofNat (onWire pass).length :: (onWire pass ++ client.requestBytes))) := by
          simpa [HevSocks5Server.userBytes] using h
        obtain ⟨hname', hsecond⟩ := eq_of_pascal hnlen (length_onWire_lt name) hfirst
        obtain ⟨hpass', hthird⟩ := eq_of_pascal hplen (length_onWire_lt pass) hsecond
        have hlookup : HevSocks5Server.lookup auth (onWire name) (onWire pass) = some user := by
          rw [← hname', ← hpass', HevSocks5Server.lookup, if_neg (not_or.mpr ⟨hne, hpne⟩), hget]
          simp [HevSocks5User.check]
        rw [agreed_user hmethod hauth hname hpass, hlookup]
        exact grant_of_read hthird hinto hserve huser
      · -- a request begins with another byte
        unfold HevSocks5Client.requestBytes at h
        split at h
        · exact absurd (List.prefix_nil.mp h) (by simp [HevSocks5Server.userBytes])
        · exact absurd (List.cons_prefix_cons.mp h).1 (by decide)

/-- **A server serves nobody else.**  In every run of a client and a server, whatever fails in it
    and whenever, as long as no write is cut short, a server that has come through the handshake
    serves what the client has asked for, for a user whose name and password are the client's. -/
theorem agreed_of_served {client : HevSocks5Client} {server : HevSocks5Server} {pipeline : Bool}
    {as : List Action} {s : Duplex Bool (Option Service)} {service : Service}
    (hcut : ∀ a ∈ as, a.how ≠ .cut)
    (hrun : run Duplex.step (.start (client.handshake pipeline) server.handshake) as = some s)
    (hserved : s.right = .done (some service)) : agreed client server = some service := by
  have huncut : ∀ a ∈ as, Uncut a.how := hcut
  -- what the server has read is a front of what the client has written
  obtain ⟨c₁, w₁, c₂, w₂, hclient, hserver, hup, -⟩ := Duplex.exec_of_run huncut hrun
  rw [hserved] at hserver
  obtain ⟨methods, creds, cmd, rsv, addr, saddr, rfl, hlen, hmem, hcreds, hinto, hserve⟩ :=
    HevSocks5Server.accepts_of_done hserver
  have hread : HevSocks5Server.greeting methods ++ creds ++ ([version5, cmd, rsv] ++ addr.bytes) <+:
      w₁ := hup ▸ List.prefix_append _ _
  -- both greetings have their length in front, so they end at the same byte
  have hbehind : ∀ {rest}, w₁ <+: client.authMethods ++ rest →
      methods = [client.method] ∧ creds ++ ([version5, cmd, rsv] ++ addr.bytes) <+: rest := by
    intro rest hpre
    have hgreet : UInt8.ofNat methods.length :: (methods ++
        (creds ++ ([version5, cmd, rsv] ++ addr.bytes))) <+:
        UInt8.ofNat [client.method].length :: ([client.method] ++ rest) := by
      simpa [HevSocks5Server.greeting, HevSocks5Client.authMethods] using hread.trans hpre
    exact eq_of_pascal hlen (by simp) hgreet
  have hpre := HevSocks5Client.written_of_handshake not_uncut_cut hclient
  obtain ⟨rfl, hrest⟩ : methods = [client.method] ∧
      (creds ++ ([version5, cmd, rsv] ++ addr.bytes) <+:
          client.credsBytes ++ client.requestBytes ∨
        creds ++ ([version5, cmd, rsv] ++ addr.bytes) <+: client.requestBytes) := by
    obtain hpre | hpre := hpre
    · exact ⟨(hbehind hpre).1, .inl (hbehind hpre).2⟩
    · exact ⟨(hbehind hpre).1, .inr (hbehind hpre).2⟩
  have hmethod : client.method = server.method := (List.mem_singleton.mp hmem).symm
  exact grant_of_credentials hmethod hcreds hrest hinto hserve

/-- The client writes all that it has to, and then the server reads and writes. -/
theorem someClient_served : ∃ s,
    run Duplex.step (.start (someClient.handshake true) someServer.handshake)
        (List.replicate 21 ⟨.left, .go⟩ ++ List.replicate 42 ⟨.right, .go⟩) = some s ∧
      s.right = .done (some someService) ∧ agreed someClient someServer = some someService := by
  obtain ⟨s, hrun, hserved⟩ : ∃ s,
      run Duplex.step (.start (someClient.handshake true) someServer.handshake)
          (List.replicate 21 ⟨.left, .go⟩ ++ List.replicate 42 ⟨.right, .go⟩) = some s ∧
        s.right = .done (some someService) := ⟨_, rfl, rfl⟩
  exact ⟨s, hrun, hserved, agreed_of_served (by decide) hrun hserved⟩

end DarkMed.Socks
