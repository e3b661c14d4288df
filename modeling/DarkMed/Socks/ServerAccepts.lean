import DarkMed.Socks.Server

/-!
# What a Server Accepts

The server's handshake as a parser of what the other end sends, whoever that is: the sequences of
bytes with which it can succeed are exactly the well-formed ones, and it reads nothing behind
them.  Calls may be cut short at any time.
-/

namespace DarkMed.Socks

open DarkMed.Lib.Wire DarkMed.Lib.Wire.Proc

variable {ok : How → Prop} {c w : List UInt8}

namespace HevSocks5Server

/-! ## Well-formed handshakes -/

def greeting (methods : List UInt8) : List UInt8 :=
  [version5, UInt8.ofNat methods.length] ++ methods

/-- The bytes with which a user has to come. -/
def userBytes (user : HevSocks5User) : List UInt8 :=
  [authVersion1, UInt8.ofNat user.name.length] ++ user.name ++
    (UInt8.ofNat user.pass.length :: user.pass)

inductive Credentials : Option HevSocks5Authenticator → List UInt8 → Option HevSocks5User → Prop
  | none : Credentials none [] none
  | user {auth : HevSocks5Authenticator} {user : HevSocks5User}
      (hget : auth.get user.name = some user) (hname : user.name ≠ []) (hpass : user.pass ≠ [])
      (hnlen : user.name.length < 256) (hplen : user.pass.length < 256) :
      Credentials (some auth) (userBytes user) (some user)

/-- The bytes `c` are a greeting with the method that is asked for, the credentials of a user if
    there are users, and a request that can be served. -/
def Accepts (self : HevSocks5Server) (c : List UInt8) (service : Service) : Prop :=
  ∃ methods creds cmd rsv addr saddr,
    c = greeting methods ++ creds ++ ([version5, cmd, rsv] ++ HevSocks5Addr.bytes addr) ∧
      methods.length < 256 ∧ self.method ∈ methods ∧ Credentials self.auth creds service.user ∧
      addrIntoSockaddr6 self.resolve addr = some saddr ∧
      self.serve (.accepted cmd saddr) = (resRepSucc, service.type, service.addr)

/-! ### What is accepted is well formed -/

/-- A method is settled on only for a whole greeting that offers it. -/
theorem readAuthMethod_done {self : HevSocks5Server} {m : UInt8}
    (h : Exec ok self.readAuthMethod c w (.done (some m))) :
    w = [] ∧ m = self.method ∧
      ∃ methods, c = greeting methods ∧ methods.length < 256 ∧ self.method ∈ methods := by
  obtain ⟨auth, rest, -, rfl, hauth⟩ := h.read_bind_done
  split at hauth
  · next ver methodLen =>
    split_ifs at hauth with hver
    · simp at hauth
    · obtain ⟨methods, rest, -, rfl, hmethods⟩ := hauth.read_bind_done
      -- only a whole list counts, and only if it has the server's own method
      split_ifs at hmethods with hlen hmem
      · simp at hmethods
      · obtain ⟨hm, rfl, rfl⟩ := exec_done_iff.mp hmethods
        have hlen : methods.length = methodLen.toNat := not_not.mp hlen
        have hver : ver = version5 := not_not.mp hver
        refine ⟨rfl, Option.some.inj hm, methods, ?_, hlen ▸ methodLen.toNat_lt, hmem⟩
        rw [greeting, hlen, UInt8.ofNat_toNat, hver, List.append_nil]
      · simp at hmethods
  · simp at hauth

/-- The user that is found has the name that was looked for. -/
theorem get_eq_some {auth : HevSocks5Authenticator} {name : List UInt8} {user : HevSocks5User}
    (h : auth.get name = some user) : user.name = name := by
  simpa using List.find?_some h

/-- A name is read together with the length of the password, which is its last byte. -/
theorem take_append_getD {l : List UInt8} {n : Nat} (h : l.length = n + 1) :
    l.take n ++ [l.getD n 0] = l := by
  have hlt : n < l.length := h ▸ Nat.lt_succ_self n
  rw [List.getD_eq_getElem?_getD, List.getElem?_eq_getElem hlt, Option.getD_some,
    List.take_concat_get', ← h, List.take_length]

/-- A user is found only for whole credentials that are the user's. -/
theorem readAuthUser_done {auth : HevSocks5Authenticator} {user : HevSocks5User}
    (h : Exec ok (readAuthUser auth) c w (.done (some user))) :
    w = [] ∧ Credentials (some auth) c (some user) := by
  obtain ⟨head, rest, -, rfl, hhead⟩ := h.read_bind_done
  split at hhead
  · next ver nlen =>
    split_ifs at hhead with hver hnlen
    · simp at hhead
    · simp at hhead
    · obtain ⟨name, rest, -, rfl, hname⟩ := hhead.read_bind_done
      split_ifs at hname with hlen hplen
      · simp at hname
      · simp at hname
      · obtain ⟨pass, rest, -, rfl, hpass⟩ := hname.read_bind_done
        split_ifs at hpass with hpasslen
        · simp at hpass
        · obtain ⟨hfilter, rfl, rfl⟩ := exec_done_iff.mp hpass
          -- all three reads have come whole; the user is one of the server's
          obtain ⟨hget, hcheck⟩ := Option.filter_eq_some_iff.mp hfilter.symm
          have hlen : name.length = nlen.toNat + 1 := not_not.mp hlen
          have hver : ver = authVersion1 := not_not.mp hver
          have hpasslen : pass.length = (name.getD nlen.toNat 0).toNat := not_not.mp hpasslen
          have hname : user.name = name.take nlen.toNat := get_eq_some hget
          have hnamelen : user.name.length = nlen.toNat := by
            rw [hname, List.length_take, hlen]
            omega
          have hpass : user.pass = pass := of_decide_eq_true hcheck
          refine ⟨rfl, ?_⟩
          -- put together, the three reads are the credentials of that user
          have hbytes : [ver, nlen] ++ (name ++ (pass ++ [])) = userBytes user := by
            rw [userBytes, hnamelen, hpass, hpasslen, UInt8.ofNat_toNat, UInt8.ofNat_toNat, hver,
              hname, List.append_nil, List.append_assoc, List.append_cons _ _ pass,
              take_append_getD hlen]
          rw [hbytes]
          refine .user (hname ▸ hget) (fun hnil => hnlen ?_) (fun hnil => hplen ?_) ?_ ?_
          · rw [hnil] at hnamelen
            exact UInt8.toNat_inj.mp hnamelen.symm
          · rw [← hpass, hnil] at hpasslen
            exact UInt8.toNat_inj.mp hpasslen.symm
          · exact hnamelen ▸ nlen.toNat_lt
          · rw [hpass, hpasslen]
            exact UInt8.toNat_lt _
  · simp at hhead

/-- The answer to the credentials reads nothing more. -/
theorem authUser_done {auth : HevSocks5Authenticator} {user : Option HevSocks5User}
    (h : Exec ok (authUser auth) c w (.done (some user))) : Credentials (some auth) c user := by
  obtain ⟨found, c₁, c₂, w₁, w₂, rfl, rfl, hfound, hrest⟩ := h.bind_done
  obtain ⟨sent, c₃, c₄, w₃, w₄, rfl, rfl, hwrite, hlast⟩ := hrest.bind_done
  obtain ⟨out, rest, -, -, hdone⟩ := hwrite.write_bind_done
  obtain ⟨-, rfl, -⟩ := exec_done_iff.mp hdone
  split_ifs at hlast with hsent
  · simp at hlast
  · obtain ⟨huser, rfl, -⟩ := exec_done_iff.mp hlast
    obtain ⟨user', rfl, rfl⟩ := Option.map_eq_some_iff.mp huser.symm
    rw [List.append_nil, List.append_nil]
    exact (readAuthUser_done hfound).2

/-- Behind the authentication of a user are a greeting and, if the server has users, credentials. -/
theorem authenticate_done {self : HevSocks5Server} {user : Option HevSocks5User}
    (h : Exec ok self.authenticate c w (.done (some user))) :
    ∃ methods creds, c = greeting methods ++ creds ∧ methods.length < 256 ∧
      self.method ∈ methods ∧ Credentials self.auth creds user := by
  obtain ⟨method, c₁, c₂, w₁, w₂, rfl, rfl, hread, hrest⟩ := h.bind_done
  obtain ⟨sent, c₃, c₄, w₃, w₄, rfl, rfl, hwrite, hauth⟩ := hrest.bind_done
  -- the answer to the greeting reads nothing
  have hnone : c₃ = [] := by
    obtain ⟨out, rest, -, -, hdone⟩ := hwrite.write_bind_done
    exact (exec_done_iff.mp hdone).2.1
  subst hnone
  split_ifs at hauth with hsent
  · simp at hauth
  · split at hauth
    · simp at hauth
    · obtain ⟨-, -, methods, rfl, hlen, hmem⟩ := readAuthMethod_done hread
      refine ⟨methods, c₄, rfl, hlen, hmem, ?_⟩
      split at hauth
      · next hnone =>
        obtain ⟨huser, rfl, -⟩ := exec_done_iff.mp hauth
        obtain rfl := Option.some.inj huser
        exact hnone ▸ .none
      · next auth hsome => exact hsome ▸ authUser_done hauth

/-- A request is accepted only when it has come whole, with an address that resolves. -/
theorem readRequest_done {self : HevSocks5Server} {cmd : UInt8} {saddr : SockaddrIn6}
    (h : Exec ok self.readRequest c w (.done (some (.accepted cmd saddr)))) :
    ∃ rsv addr, c = [version5, cmd, rsv] ++ HevSocks5Addr.bytes addr ∧
      addrIntoSockaddr6 self.resolve addr = some saddr := by
  obtain ⟨req, rest, -, rfl, hreq⟩ := h.read_bind_done
  split at hreq
  · next ver cmd' rsv atype first =>
    split_ifs at hreq with hver
    · simp at hreq
    · split at hreq
      · simp at hreq
      · next len hlen =>
        obtain ⟨addr, rest, -, rfl, haddr⟩ := hreq.read_bind_done
        split_ifs at haddr with haddrlen
        · simp at haddr
        · split at haddr
          · simp at haddr
          · next addr' hbytes =>
            split at haddr
            · simp at haddr
            · next saddr' hinto =>
              obtain ⟨heq, rfl, -⟩ := exec_done_iff.mp haddr
              -- of all ends of the function only this one accepts
              obtain ⟨rfl, rfl⟩ := Request.accepted.inj (Option.some.inj heq)
              have hver : ver = version5 := not_not.mp hver
              refine ⟨rsv, addr', ?_, hinto⟩
              rw [HevSocks5Addr.bytes_ofBytes hbytes, hver, List.append_nil]
              rfl
  · simp at hreq

/-- Nothing that is refused is answered like a success. -/
theorem readRequest_refused {self : HevSocks5Server} {rep : UInt8} {saddr : SockaddrIn6}
    (h : Exec ok self.readRequest c w (.done (some (.refused rep saddr)))) :
    rep ≠ resRepSucc := by
  -- every way out has a code of its own
  obtain ⟨req, rest, -, rfl, hreq⟩ := h.read_bind_done
  split at hreq
  · split_ifs at hreq with hver
    · obtain ⟨heq, -, -⟩ := exec_done_iff.mp hreq
      cases heq
      decide
    · split at hreq
      · obtain ⟨heq, -, -⟩ := exec_done_iff.mp hreq
        cases heq
        decide
      · obtain ⟨addr, rest, -, rfl, haddr⟩ := hreq.read_bind_done
        split_ifs at haddr with haddrlen
        · obtain ⟨heq, -, -⟩ := exec_done_iff.mp haddr
          cases heq
          decide
        · split at haddr
          · obtain ⟨heq, -, -⟩ := exec_done_iff.mp haddr
            cases heq
            decide
          · split at haddr
            · obtain ⟨heq, -, -⟩ := exec_done_iff.mp haddr
              cases heq
              decide
            · obtain ⟨heq, -, -⟩ := exec_done_iff.mp haddr
              cases heq
  · simp at hreq

/-- There is a session only for a request that was served with success. -/
theorem handle_done {self : HevSocks5Server} {user : Option HevSocks5User} {service : Service}
    (h : Exec ok (self.handle user) c w (.done (some service))) :
    service.user = user ∧ ∃ cmd rsv addr saddr, c = [version5, cmd, rsv] ++ HevSocks5Addr.bytes addr ∧
      addrIntoSockaddr6 self.resolve addr = some saddr ∧
      self.serve (.accepted cmd saddr) = (resRepSucc, service.type, service.addr) := by
  obtain ⟨req, c₁, c₂, w₁, w₂, rfl, rfl, hreq, hlast⟩ := h.bind_done
  split at hlast
  · simp at hlast
  · next req =>
    obtain ⟨sent, c₃, c₄, w₃, w₄, rfl, rfl, hwrite, hdone⟩ := hlast.bind_done
    obtain ⟨out, rest, -, -, hwritten⟩ := hwrite.write_bind_done
    obtain ⟨-, rfl, -⟩ := exec_done_iff.mp hwritten
    split_ifs at hdone with hfailed
    · simp at hdone
    · obtain ⟨hservice, rfl, -⟩ := exec_done_iff.mp hdone
      obtain rfl := Option.some.inj hservice
      obtain ⟨-, hrep⟩ := not_or.mp hfailed
      have hrep : (self.serve req).1 = resRepSucc := not_not.mp hrep
      -- a refused request has a code that is not that of a success
      cases req with
      | refused rep saddr => exact absurd hrep (readRequest_refused hreq)
      | accepted cmd saddr =>
        obtain ⟨rsv, addr, rfl, hinto⟩ := readRequest_done hreq
        refine ⟨rfl, cmd, rsv, addr, saddr, ?_, hinto, ?_⟩
        · rw [List.append_nil, List.append_nil]
        · rw [← hrep]

/-- The server comes through with a service only for what is well formed. -/
theorem accepts_of_done {self : HevSocks5Server} {service : Service}
    (h : Exec ok self.handshake c w (.done (some service))) : self.Accepts c service := by
  obtain ⟨auth, c₁, c₂, w₁, w₂, rfl, rfl, hauth, hrest⟩ := h.bind_done
  split at hrest
  · simp at hrest
  · next user =>
    obtain ⟨methods, creds, rfl, hlen, hmem, hcreds⟩ := authenticate_done hauth
    obtain ⟨rfl, cmd, rsv, addr, saddr, rfl, hinto, hserve⟩ := handle_done hrest
    exact ⟨methods, creds, cmd, rsv, addr, saddr, rfl, hlen, hmem, hcreds, hinto, hserve⟩

/-! ### What is well formed is accepted -/

theorem toNat_ofNat_length {l : List UInt8} (h : l.length < 256) :
    (UInt8.ofNat l.length).toNat = l.length := by
  rw [UInt8.toNat_ofNat', Nat.mod_eq_of_lt h]

section Runs

variable (hgo : ok .go) (self : HevSocks5Server)
include hgo

/-- A whole greeting is read, whether it offers the method or not. -/
theorem exec_readAuthMethod {methods : List UInt8} (hlen : methods.length < 256) :
    Exec ok self.readAuthMethod (greeting methods) []
      (.done (if self.method ∈ methods then some self.method else none)) := by
  have hnat := toNat_ofNat_length hlen
  refine Exec.read_then ?_ hgo (n := 2) rfl
  refine Exec.read_last ?_ hgo hnat.symm
  rw [if_neg (not_not.mpr hnat.symm)]
  exact .refl _

theorem exec_writeAuthMethod (method : Option UInt8) :
    Exec ok (writeAuthMethod method) [] [version5, method.getD authMethodDeny] (.done true) :=
  Exec.write_last (.refl _) hgo

/-- The user that a name and a password are those of. -/
def lookup (auth : HevSocks5Authenticator) (name pass : List UInt8) : Option HevSocks5User :=
  if name = [] ∨ pass = [] then none else (auth.get name).filter fun user => user.check pass

/-- The bytes behind what makes the server give up are not read. -/
theorem exec_readAuthUser (auth : HevSocks5Authenticator) {name pass : List UInt8}
    (hname : name.length < 256) (hpass : pass.length < 256) :
    ∃ c rest, [authVersion1, UInt8.ofNat name.length] ++ name ++
          (UInt8.ofNat pass.length :: pass) = c ++ rest ∧
      Exec ok (readAuthUser auth) c [] (.done (lookup auth name pass)) ∧
      (lookup auth name pass ≠ none → rest = []) := by
  have hnat := toNat_ofNat_length hname
  have hpnat := toNat_ofNat_length hpass
  -- an empty name ends the reading behind two bytes
  by_cases hempty : name = []
  · subst hempty
    refine ⟨[authVersion1, 0], _, rfl, ?_, fun h => absurd (if_pos (.inl rfl)) h⟩
    exact Exec.read_last (.refl _) hgo rfl
  · have hnlen : UInt8.ofNat name.length ≠ 0 := fun h => by
      rw [h] at hnat
      exact hempty (List.length_eq_zero_iff.mp hnat.symm)
    have hlast : (name ++ [UInt8.ofNat pass.length]).length =
        (UInt8.ofNat name.length).toNat + 1 := by
      rw [List.length_append, hnat]
      rfl
    have hplen : (name ++ [UInt8.ofNat pass.length]).getD (UInt8.ofNat name.length).toNat 0 =
        UInt8.ofNat pass.length := by
      rw [hnat]
      simp
    -- an empty password ends it behind the name
    by_cases hpempty : pass = []
    · subst hpempty
      have hnone : lookup auth name [] = none := if_pos (.inr rfl)
      have hzero : UInt8.ofNat ([] : List UInt8).length = 0 := rfl
      refine ⟨_, [], (List.append_nil _).symm, ?_, fun h => absurd hnone h⟩
      rw [hnone, List.append_assoc]
      refine Exec.read_then ?_ hgo (n := 2) rfl
      show Exec ok (if authVersion1 ≠ 1 then _ else if _ then _ else _) _ _ _
      rw [if_neg (by decide), if_neg hnlen]
      refine Exec.read_last ?_ hgo hlast
      rw [if_neg (not_not.mpr hlast), hplen, if_pos hzero]
      exact .refl _
    · have hplen0 : UInt8.ofNat pass.length ≠ 0 := fun h => by
        rw [h] at hpnat
        exact hpempty (List.length_eq_zero_iff.mp hpnat.symm)
      refine ⟨_, [], (List.append_nil _).symm, ?_, fun _ => rfl⟩
      rw [List.append_assoc, List.append_cons name]
      refine Exec.read_then ?_ hgo (n := 2) rfl
      show Exec ok (if authVersion1 ≠ 1 then _ else if _ then _ else _) _ _ _
      rw [if_neg (by decide), if_neg hnlen]
      refine Exec.read_then ?_ hgo hlast
      rw [if_neg (not_not.mpr hlast), hplen, if_neg hplen0]
      refine Exec.read_last ?_ hgo hpnat.symm
      rw [if_neg (not_not.mpr hpnat.symm), hnat, List.take_left', lookup,
        if_neg (not_or.mpr ⟨hempty, hpempty⟩)]
      · exact .refl _
      · rfl

/-- The verdict is one byte, and is written for any credentials. -/
theorem exec_authUser (auth : HevSocks5Authenticator) {name pass : List UInt8}
    (hname : name.length < 256) (hpass : pass.length < 256) :
    ∃ c rest, [authVersion1, UInt8.ofNat name.length] ++ name ++
          (UInt8.ofNat pass.length :: pass) = c ++ rest ∧
      Exec ok (authUser auth) c [authVersion1, if (lookup auth name pass).isSome then 0 else 255]
        (.done ((lookup auth name pass).map some)) ∧
      (lookup auth name pass ≠ none → rest = []) := by
  obtain ⟨c, rest, hbytes, hread, hrest⟩ := exec_readAuthUser hgo auth hname hpass
  refine ⟨c, rest, hbytes, ?_, hrest⟩
  have hwrite : Exec ok (writeAuthUser (lookup auth name pass).isSome) []
      [authVersion1, if (lookup auth name pass).isSome then 0 else 255] (.done true) :=
    Exec.write_last (.refl _) hgo
  have hboth : Exec ok (authUser auth) (c ++ ([] ++ [])) ([] ++ ([authVersion1, _] ++ [])) _ :=
    hread.trans (hwrite.trans (.refl _))
  rw [List.append_nil, List.append_nil, List.nil_append, List.append_nil] at hboth
  exact hboth

/-- What becomes of a request that comes over whole. -/
def received (self : HevSocks5Server) (cmd : UInt8) (addr : HevSocks5Addr) : Request :=
  match addrIntoSockaddr6 self.resolve addr with
  | none => .refused resRepAddr (failedAddr addr)
  | some saddr => .accepted cmd saddr

/-- A request that comes whole is read to its end and not beyond, whatever its address. -/
theorem exec_readRequest (cmd rsv : UInt8) (addr : HevSocks5Addr) :
    Exec ok self.readRequest ([version5, cmd, rsv] ++ addr.bytes) []
      (.done (some (self.received cmd addr))) := by
  -- five bytes come first, of which the last two say how many are missing
  obtain ⟨atype, first, rest, hbytes, hlen⟩ : ∃ atype first rest,
      addr.bytes = atype :: first :: rest ∧ addrlen atype first = some rest.length := by
    cases addr with
    | ipv4 addr port =>
      obtain ⟨a, addr, haddr⟩ := List.exists_cons_of_length_eq_add_one addr.toList_length
      have hrest := congrArg List.length haddr
      refine ⟨_, a, addr ++ port.toList, congrArg (fun l => _ :: (l ++ _)) haddr, ?_⟩
      simp at hrest
      simp [addrlen, ← hrest]
    | ipv6 addr port =>
      obtain ⟨a, addr, haddr⟩ := List.exists_cons_of_length_eq_add_one addr.toList_length
      have hrest := congrArg List.length haddr
      refine ⟨_, a, addr ++ port.toList, congrArg (fun l => _ :: (l ++ _)) haddr, ?_⟩
      simp at hrest
      simp [addrlen, ← hrest, addrTypeIpv4, addrTypeIpv6]
    | name addr port =>
      have hnat : addr.1.length % 256 = addr.1.length := Nat.mod_eq_of_lt addr.2
      refine ⟨_, _, addr.1 ++ port.toList, rfl, ?_⟩
      simp [addrlen, hnat, addrTypeIpv4, addrTypeIpv6, addrTypeName, Nat.add_comm]
  have hof : HevSocks5Addr.ofBytes (atype :: first :: rest) = some addr := by
    rw [← hbytes, HevSocks5Addr.ofBytes_bytes]
  rw [hbytes]
  show Exec ok self.readRequest ([version5, cmd, rsv, atype, first] ++ rest) [] _
  refine Exec.read_then ?_ hgo (n := 5) rfl
  show Exec ok (if version5 ≠ version5 then _ else _) _ _ _
  rw [if_neg (by decide), hlen]
  refine Exec.read_last ?_ hgo rfl
  rw [if_neg (by simp), hof]
  unfold received
  show Exec ok (match addrIntoSockaddr6 self.resolve addr with
    | none => _
    | some _ => _) [] [] _
  cases addrIntoSockaddr6 self.resolve addr with
  | none => exact .refl _
  | some saddr => exact .refl _

/-- What is written back is the response, and only a success is a session. -/
theorem exec_reply (user : Option HevSocks5User) (served : UInt8 × HevSocks5Type × SockaddrIn6) :
    Exec ok (reply user served) [] (response served.1 served.2.2)
      (.done (if served.1 = resRepSucc then some ⟨served.2.1, user, served.2.2⟩ else none)) := by
  have hwrite : Exec ok (writeResponse served.1 served.2.2) [] (response served.1 served.2.2)
      (.done true) := Exec.write_last (.refl _) hgo
  have hreply : Exec ok (reply user served) ([] ++ []) (response served.1 served.2.2 ++ [])
      (.done (if true = false ∨ served.1 ≠ resRepSucc then none
        else some ⟨served.2.1, user, served.2.2⟩)) := hwrite.trans (.refl _)
  rw [List.append_nil, List.append_nil] at hreply
  by_cases hrep : served.1 = resRepSucc
  · rw [if_pos hrep]
    rwa [if_neg (by simp [hrep])] at hreply
  · rw [if_neg hrep]
    rwa [if_pos (.inr hrep)] at hreply

/-- A whole request is answered with what the server makes of it. -/
theorem exec_handle (user : Option HevSocks5User) (cmd rsv : UInt8) (addr : HevSocks5Addr) :
    Exec ok (self.handle user) ([version5, cmd, rsv] ++ addr.bytes)
      (response (self.serve (self.received cmd addr)).1
        (self.serve (self.received cmd addr)).2.2)
      (.done (if (self.serve (self.received cmd addr)).1 = resRepSucc then
        some ⟨(self.serve (self.received cmd addr)).2.1, user,
          (self.serve (self.received cmd addr)).2.2⟩ else none)) := by
  have h : Exec ok (self.handle user) (([version5, cmd, rsv] ++ addr.bytes) ++ []) ([] ++ _) _ :=
    (exec_readRequest hgo self cmd rsv addr).trans
      (exec_reply hgo user (self.serve (self.received cmd addr)))
  rwa [List.append_nil, List.nil_append] at h

/-- The greeting has been answered with the method. -/
theorem exec_greeting {methods : List UInt8} (hlen : methods.length < 256)
    (hmem : self.method ∈ methods) :
    Exec ok self.authenticate (greeting methods) [version5, self.method]
      (match self.auth with
        | none => .done (some none)
        | some auth => authUser auth) := by
  have hread := exec_readAuthMethod hgo self hlen
  rw [if_pos hmem] at hread
  have hwrite := exec_writeAuthMethod hgo (some self.method)
  have h : Exec ok self.authenticate (greeting methods ++ ([] ++ [])) ([] ++ ([_, _] ++ [])) _ :=
    hread.trans (hwrite.trans (.refl _))
  rw [List.append_nil, List.append_nil, List.nil_append, List.append_nil] at h
  exact h

/-- A greeting without the method is answered, and that is the end. -/
theorem exec_greeting_deny {methods : List UInt8} (hlen : methods.length < 256)
    (hmem : self.method ∉ methods) :
    Exec ok self.authenticate (greeting methods) [version5, authMethodDeny] (.done none) := by
  have hread := exec_readAuthMethod hgo self hlen
  rw [if_neg hmem] at hread
  have hwrite := exec_writeAuthMethod hgo none
  have h : Exec ok self.authenticate (greeting methods ++ ([] ++ [])) ([] ++ ([_, _] ++ [])) _ :=
    hread.trans (hwrite.trans (.refl _))
  rw [List.append_nil, List.append_nil, List.nil_append, List.append_nil] at h
  exact h

/-- The credentials of a user, or none where there are no users, take the server to the request. -/
theorem exec_authenticate {methods creds : List UInt8} {user : Option HevSocks5User}
    (hlen : methods.length < 256) (hmem : self.method ∈ methods)
    (hcreds : Credentials self.auth creds user) :
    ∃ w, Exec ok self.authenticate (greeting methods ++ creds) w (.done (some user)) := by
  have hgreet := exec_greeting hgo self hlen hmem
  -- without users nothing follows the greeting
  cases hauth : self.auth with
  | none =>
    rw [hauth] at hcreds hgreet
    cases hcreds
    rw [List.append_nil]
    exact ⟨_, hgreet⟩
  | some auth =>
    rw [hauth] at hcreds hgreet
    cases hcreds with
    | @user _ user hget hname hpass hnlen hplen =>
      have hlookup : lookup auth user.name user.pass = some user := by
        rw [lookup, if_neg (not_or.mpr ⟨hname, hpass⟩), hget]
        simp [HevSocks5User.check]
      obtain ⟨c, rest, hbytes, hexec, hrest⟩ := exec_authUser hgo auth hnlen hplen
      rw [hrest (by rw [hlookup]; simp), List.append_nil] at hbytes
      rw [hlookup] at hexec
      rw [userBytes, hbytes]
      exact ⟨_, hgreet.append hexec⟩

/-- What is well formed takes the server through its handshake. -/
theorem exec_of_accepts {service : Service} (h : self.Accepts c service) :
    ∃ w, Exec ok self.handshake c w (.done (some service)) := by
  obtain ⟨methods, creds, cmd, rsv, addr, saddr, rfl, hlen, hmem, hcreds, hinto, hserve⟩ := h
  have hreceived : self.received cmd addr = .accepted cmd saddr := by rw [received, hinto]
  have hhandle := exec_handle hgo self service.user cmd rsv addr
  rw [hreceived, hserve] at hhandle
  obtain ⟨w, hauth⟩ := exec_authenticate hgo self hlen hmem hcreds
  exact ⟨_, hauth.trans hhandle⟩

end Runs

/-- **A server accepts what is well formed**, whoever sends it: a greeting with its method, the
    credentials of one of its users if it has any, and a request that it can serve; and it reads
    nothing behind that. -/
theorem server_accepts_iff (self : HevSocks5Server) (c : List UInt8) (service : Service) :
    (∃ w, Exec (fun _ => True) self.handshake c w (.done (some service))) ↔
      self.Accepts c service :=
  ⟨fun ⟨_, h⟩ => accepts_of_done h, exec_of_accepts trivial self⟩

end HevSocks5Server

end DarkMed.Socks
