import MockSsh.Proofs.Dispatch.Policies
import MockSsh.Proofs.Session.Faults

/-!
What the policies have to do with whole sessions. Sessions under two channel policies keep different
tables, and sessions that ignore or refuse unsupported messages send different replies; nothing else of
it shows. Their transcripts stay parallel packet by packet (`Transcript.ofPackets_parallel`), because an
answer depends on no table (`Dispatcher.Settled.result`). Where every message is supported, sessions
under any policy on the others are the same in all steps (`Session.run_withUnsupported`).
-/
namespace MockSsh

variable {κ : Type}

/-! ## Parallel transcripts -/

namespace Transcript

/-- Two transcripts that differ at most in the replies, where `related` says how, and in what was
noted down on the way. -/
structure Parallel (related : List Packet → List Packet → Prop) (told other : Transcript κ) : Prop where
  ended : told.ended = other.ended
  line : told.line = other.line
  packets : told.packets = other.packets
  authenticated : told.connection.authenticated = other.connection.authenticated
  replies : related told.replies other.replies

/-- Parallel transcripts come to the same report, but for the number of packets sent. -/
theorem Parallel.report {related : List Packet → List Packet → Prop} {told other : Transcript κ}
    (h : told.Parallel related other) (ends : Except Fault SessionEnd → Except Fault SessionEnd) :
    { told with ended := ends told.ended }.report
      = { other with ended := ends other.ended }.report.map fun report : Report =>
          { report with packetsSent := UInt32.ofNat told.replies.length } := by
  simp only [Transcript.report, h.ended, h.packets, h.authenticated, h.line]
  cases ends other.ended <;> rfl

/-- With as many replies, that number is the same too. -/
theorem Parallel.report_of_length {related : List Packet → List Packet → Prop}
    {told other : Transcript κ} (h : told.Parallel related other)
    (hlength : told.replies.length = other.replies.length)
    (ends : Except Fault SessionEnd → Except Fault SessionEnd) :
    { told with ended := ends told.ended }.report
      = { other with ended := ends other.ended }.report := by
  simp only [Transcript.report, h.ended, h.packets, h.authenticated, h.line, hlength]

/-- A relation of replies that can be told one packet after the other. -/
structure Additive (related : List Packet → List Packet → Prop) : Prop where
  nil : related [] []
  append : ∀ {first second later others : List Packet}, related first second →
    related later others → related (first ++ later) (second ++ others)

section Parallel

variable {related : List Packet → List Packet → Prop} (hadds : Additive related)
include hadds

theorem parallel_stopped (ended : Except Fault SessionEnd) (packets : Nat) (rest : Bytes)
    {connection otherConnection : Connection} (dispatcher otherDispatcher : Dispatcher κ)
    (h : connection.authenticated = otherConnection.authenticated) :
    Parallel related (stopped ended packets rest connection dispatcher)
      (stopped ended packets rest otherConnection otherDispatcher) :=
  ⟨rfl, rfl, rfl, h, hadds.nil⟩

theorem Parallel.answered {told other : Transcript κ} (h : told.Parallel related other)
    {replies others : List Packet} (hreplies : related replies others)
    (events otherEvents : List Event) :
    (told.answered replies events).Parallel related (other.answered others otherEvents) :=
  ⟨h.ended, h.line, h.packets, h.authenticated, hadds.append hreplies h.replies⟩

section Packets

variable {policy otherPolicy : ChannelPolicy} {unsupported otherUnsupported : UnsupportedPolicy}
  {markers : Markers} (hverdict : ∀ inbound, Dispatcher.Parallel related
    (Dispatcher.verdict policy unsupported markers inbound)
    (Dispatcher.verdict otherPolicy otherUnsupported markers inbound))
include hverdict

/-- **Packets under other settings**: where each answer alone differs as `related` says, so do all of
them together. The induction is on the number of the bytes. -/
theorem ofPackets_parallel (limit : Nat) {dispatcher otherDispatcher : Dispatcher Cleartext}
    {connection otherConnection : Connection}
    (hsettled : dispatcher.Settled unsupported markers policy connection)
    (hother : otherDispatcher.Settled otherUnsupported markers otherPolicy otherConnection)
    (hlogin : connection.authenticated = otherConnection.authenticated) (index : Nat)
    (input : Bytes) :
    Parallel related (ofPackets limit dispatcher connection index input)
      (ofPackets limit otherDispatcher otherConnection index input) := by
  induction hlength : input.length using Nat.strongRecOn
    generalizing dispatcher otherDispatcher connection otherConnection index input with
  | ind length ih =>
    cases hcut : cutFrame limit input with
    | incomplete =>
      rw [ofPackets_of_incomplete hcut, ofPackets_of_incomplete hcut]
      exact parallel_stopped hadds (.ok .peerClosed) index [] _ _ hlogin
    | refused fault rest =>
      rw [ofPackets_of_refused hcut, ofPackets_of_refused hcut]
      exact parallel_stopped hadds (.error fault) index rest _ _ hlogin
    | packet packet rest =>
      let inbound : Inbound := ⟨UInt32.ofNat index, packet⟩
      have hnext := hsettled.dispatch inbound
      have hotherNext := hother.dispatch inbound
      have hlogins := dispatcher.authenticated_dispatch connection inbound
      rw [hsettled.markers, hlogin, ← hother.markers,
        ← otherDispatcher.authenticated_dispatch otherConnection inbound] at hlogins
      -- the tables differ by now, but a settled dispatcher answers by its settings alone
      have hanswers := hverdict inbound
      rw [← hsettled.result inbound, ← hother.result inbound] at hanswers
      rw [ofPackets_of_packet hcut, ofPackets_of_packet hcut]
      simp only
      generalize dispatcher.dispatch connection ⟨UInt32.ofNat index, packet⟩ = outcome,
        otherDispatcher.dispatch otherConnection ⟨UInt32.ofNat index, packet⟩ = otherOutcome
        at hnext hotherNext hlogins hanswers ⊢
      generalize outcome.result = result, otherOutcome.result = otherResult at hanswers ⊢
      cases hanswers with
      | fails fault =>
        exact (parallel_stopped hadds (.error fault) _ rest _ _ hlogins).answered hadds hadds.nil _ _
      | answers next hreplies =>
        cases next with
        | proceed =>
          have hless : rest.length < length := by
            rw [← hlength]
            exact length_cutFrame hcut
          exact (ih rest.length hless hnext hotherNext hlogins (index + 1) rest rfl).answered hadds
            hreplies _ _
        | peerDisconnected message =>
          exact (parallel_stopped hadds (.ok .peerDisconnected) _ rest _ _ hlogins).answered hadds
            hreplies _ _
        | policyDisconnect =>
          exact (parallel_stopped hadds (.ok .policyDisconnect) _ rest _ _ hlogins).answered hadds
            hreplies _ _

/-- Whole conversations under other settings. -/
theorem ofBytes_parallel (config : Config) (peer : String) (exchange : Cleartext) (input : Bytes)
    (hmarkers : config.markers = markers) :
    let settings := { config with channelPolicy := policy, unsupportedPolicy := unsupported }
    let others := { config with channelPolicy := otherPolicy, unsupportedPolicy := otherUnsupported }
    Parallel related (ofBytes settings peer exchange input) (ofBytes others peer exchange input) := by
  intro settings others
  have hsettled {policy : ChannelPolicy} {unsupported : UnsupportedPolicy} :=
    Dispatcher.Settled.fresh unsupported markers policy exchange peer
  simp only [ofBytes, settings, others]
  cases cutLine config.maxIdentificationLength input with
  | incomplete => exact parallel_stopped hadds (.ok .peerClosed) 0 [] _ _ rfl
  | tooLong length rest =>
    exact parallel_stopped hadds (.error (.identificationTooLong length)) 0 rest _ _ rfl
  | line text rest =>
    subst hmarkers
    have hpackets := ofPackets_parallel hadds hverdict config.maxPacketLength hsettled hsettled rfl
      0 rest
    exact ⟨hpackets.ended, rfl, hpackets.packets, hpackets.authenticated, hpackets.replies⟩

end Packets

end Parallel

end Transcript

/-! ## Supported messages -/

namespace Session

/-- The same session under another policy on unsupported messages. -/
def withUnsupported (session : Session κ) (policy : UnsupportedPolicy) : Session κ :=
  { session with
    config := { session.config with unsupportedPolicy := policy }
    dispatcher := session.dispatcher.withUnsupported policy }

/-- The packet that the next turn takes, if it takes one. -/
def incoming? (session : Session κ) : Option Packet :=
  match session.state, (session.transport.readPacket session.config.maxPacketLength).1 with
  | .packetLoop, .ok (some inbound) => some inbound.packet
  | _, _ => none

variable [KeyExchange κ]

/-- The packets that a conversation takes, in their order. -/
def decoded (session : Session κ) : List Packet :=
  let turn := session.turn
  match _ : turn.ended with
  | some _ => session.incoming?.toList
  | none => session.incoming?.toList ++ decoded turn.session
termination_by session.transport.stream.unread
decreasing_by exact unread_turn session ‹_›

theorem decoded_of_ended {session : Session κ} {result : Except Fault SessionEnd}
    (h : session.turn.ended = some result) : session.decoded = session.incoming?.toList := by
  rw [decoded]
  split <;> simp_all

theorem decoded_of_goes_on {session : Session κ} (h : session.turn.ended = none) :
    session.decoded = session.incoming?.toList ++ session.turn.session.decoded := by
  rw [decoded]
  split <;> simp_all

theorem answerPacket_withUnsupported (session : Session κ) {inbound : Inbound}
    (h : inbound.packet.isSupported) (policy : UnsupportedPolicy) :
    (session.withUnsupported policy).answerPacket inbound
      = { session.answerPacket inbound with
          session := (session.answerPacket inbound).session.withUnsupported policy } := by
  unfold answerPacket
  simp only [withUnsupported, Dispatcher.dispatch_of_supported _ _ h]
  cases (session.dispatcher.dispatch session.connection inbound).result with
  | error fault => rfl
  | ok answer =>
    simp only
    generalize sendReplies _ _ _ = sent
    obtain ⟨result, after, events⟩ := sent
    cases result <;> rfl

theorem exchangePacket_withUnsupported {session : Session κ} (hstate : session.state = .packetLoop)
    (h : ∀ packet ∈ session.incoming?, packet.isSupported) (policy : UnsupportedPolicy) :
    (session.withUnsupported policy).exchangePacket
      = { session.exchangePacket with
          session := session.exchangePacket.session.withUnsupported policy } := by
  have hread : (session.withUnsupported policy).transport.readPacket
      (session.withUnsupported policy).config.maxPacketLength
        = session.transport.readPacket session.config.maxPacketLength := rfl
  unfold incoming? at h
  rw [hstate] at h
  rw [exchangePacket_eq_answerRead, exchangePacket_eq_answerRead, hread]
  generalize session.transport.readPacket _ = read at h ⊢
  obtain ⟨answer, after⟩ := read
  rcases answer with fault | _ | inbound
  · rfl
  · rfl
  · exact answerPacket_withUnsupported { session with transport := after } (h _ rfl) policy

omit [KeyExchange κ] in
theorem greet_withUnsupported (session : Session κ) (read : Except Fault (Option String))
    (policy : UnsupportedPolicy) :
    (session.withUnsupported policy).greet read
      = { session.greet read with
          session := (session.greet read).session.withUnsupported policy } := by
  rcases read with fault | _ | line
  · rfl
  · rfl
  · have hline : ownLine (session.withUnsupported policy).config = ownLine session.config := rfl
    have hwrite : (session.withUnsupported policy).transport = session.transport := rfl
    simp only [greet, hline, hwrite]
    generalize session.transport.writeIdentification _ = write
    obtain ⟨result, after⟩ := write
    cases result <;> rfl

omit [KeyExchange κ] in
theorem exchangeVersions_withUnsupported (session : Session κ) (policy : UnsupportedPolicy) :
    (session.withUnsupported policy).exchangeVersions
      = { session.exchangeVersions with
          session := session.exchangeVersions.session.withUnsupported policy } := by
  rw [exchangeVersions_eq_greet, exchangeVersions_eq_greet]
  exact greet_withUnsupported { session with transport := _ } _ policy

/-- **A turn** in which no unsupported message comes. -/
theorem turn_withUnsupported {session : Session κ}
    (h : ∀ packet ∈ session.incoming?, packet.isSupported) (policy : UnsupportedPolicy) :
    (session.withUnsupported policy).turn
      = { session.turn with session := session.turn.session.withUnsupported policy } := by
  unfold turn
  rw [show (session.withUnsupported policy).state = session.state from rfl]
  cases hstate : session.state with
  | versionExchange => exact session.exchangeVersions_withUnsupported policy
  | packetLoop => exact exchangePacket_withUnsupported hstate h policy
  | closed => rfl

/-- **A conversation** in which no unsupported message comes: the induction is on its turns. -/
theorem converse_withUnsupported {session : Session κ}
    (h : ∀ packet ∈ session.decoded, packet.isSupported) (policy : UnsupportedPolicy) :
    (session.withUnsupported policy).converse
      = { session.converse with
          session := session.converse.session.withUnsupported policy } := by
  induction session using turn_induction with
  | ended session result hended =>
    rw [decoded_of_ended hended] at h
    have hturn := turn_withUnsupported (fun packet hpacket => h packet (by simpa using hpacket)) policy
    rw [converse_of_ended hended, converse_of_ended (by rw [hturn]; exact hended), hturn]
  | goesOn session hgoes ih =>
    rw [decoded_of_goes_on hgoes] at h
    have hturn := turn_withUnsupported
      (fun packet hpacket => h packet (List.mem_append_left _ (by simpa using hpacket))) policy
    have hrest := ih fun packet hpacket => h packet (List.mem_append_right _ hpacket)
    rw [converse_of_goes_on hgoes, converse_of_goes_on (by rw [hturn]; exact hgoes), hturn]
    simp only [hrest]

/-- A run in which no unsupported message comes is the same under every policy. -/
theorem run_withUnsupported {session : Session κ}
    (h : ∀ packet ∈ session.decoded, packet.isSupported) (policy : UnsupportedPolicy) :
    (session.withUnsupported policy).run
      = { session.run with session := session.run.session.withUnsupported policy } := by
  unfold run
  rw [converse_withUnsupported h policy]
  rfl

/-! ## Runs under other policies -/

/-- What a session writes: nothing without a line of the peer, else its own line and the replies. -/
def output (config : Config) (peerLine : Option String) (replies : List Packet) : Bytes :=
  match peerLine with
  | none => []
  | some _ => ownLine config ++ replies.flatMap Packet.encode

omit [KeyExchange κ] in
theorem written_eq_output (told : Transcript κ) (config : Config) :
    told.written config = output config told.line told.replies := by
  simp only [output, ownLine_eq_greeting]
  rfl

theorem length_output {policy other : ChannelPolicy} (config : Config) (peerLine : Option String)
    {replies others : List Packet}
    (h : List.Forall₂ (Packet.SameButSender policy other) replies others) :
    (output config peerLine replies).length = (output config peerLine others).length := by
  have hreplies : (replies.flatMap Packet.encode).length = (others.flatMap Packet.encode).length := by
    induction h with
    | nil => rfl
    | cons hpacket _ ih =>
      rw [List.flatMap_cons, List.flatMap_cons, List.length_append, List.length_append,
        hpacket.length_encode, ih]
  cases peerLine with
  | none => rfl
  | some line => simp only [output, List.length_append, hreplies]

theorem additive_sameButSender (policy other : ChannelPolicy) :
    Transcript.Additive (List.Forall₂ (Packet.SameButSender policy other)) :=
  ⟨.nil, fun h hlater => List.rel_append h hlater⟩

theorem additive_unrefused :
    Transcript.Additive fun ignored refused => ignored = Dispatcher.unrefused refused where
  nil := rfl
  append h hlater := by rw [h, hlater, Dispatcher.unrefused_append]

/-- **Policies do not interfere.** Over all streams on which nothing but the end of the bytes is a
fault: under any two channel policies a session ends the same, with the same report or fault, and writes
as much; the frames that it writes are the same but for the server's number in confirmations. If it
ignores unsupported messages it ends as it does if it refuses them, and writes the same without the
refusals, which alone are missing in the count of its report. And over any stream on which all messages
that come are supported, the policy on the others makes no difference. -/
theorem run_of_policies (config : Config) (peer : String) (exchange : Cleartext)
    (chunks : List Bytes) (ending : Option StreamFault) :
    let quiet : Stream := { Stream.ofChunks chunks with ending }
    let session (stream : Stream) (channelPolicy : ChannelPolicy)
        (unsupportedPolicy : UnsupportedPolicy) : Session Cleartext :=
      fresh stream { config with channelPolicy, unsupportedPolicy } peer exchange
    (∀ policy other unsupported,
      let run := (session quiet policy unsupported).run
      let otherRun := (session quiet other unsupported).run
      run.result = otherRun.result ∧
      run.session.written.length = otherRun.session.written.length ∧
      ∃ peerLine replies others, run.session.written = output config peerLine replies ∧
        otherRun.session.written = output config peerLine others ∧
        List.Forall₂ (Packet.SameButSender policy other) replies others) ∧
    (∀ policy,
      let ignoring := (session quiet policy .ignore).run
      let refusing := (session quiet policy .unimplemented).run
      ∃ peerLine replies, refusing.session.written = output config peerLine replies ∧
        ignoring.session.written = output config peerLine (Dispatcher.unrefused replies) ∧
        ignoring.result = refusing.result.map fun report =>
          { report with packetsSent := UInt32.ofNat (Dispatcher.unrefused replies).length }) ∧
    ∀ stream policy unsupported other,
      let supported := session stream policy unsupported
      (∀ packet ∈ supported.decoded, packet.isSupported) →
      (session stream policy other).run
        = { supported.run with session := supported.run.session.withUnsupported other } := by
  intro quiet session
  have htold (policy : ChannelPolicy) (unsupported : UnsupportedPolicy) :=
    run_of_ending { config with channelPolicy := policy, unsupportedPolicy := unsupported } peer
      exchange chunks ending
  refine ⟨fun policy other unsupported => ?_, fun policy => ?_, fun stream policy unsupported other =>
    fun h => run_withUnsupported h other⟩
  · obtain ⟨hwritten, hresult⟩ := htold policy unsupported
    obtain ⟨hotherWritten, hotherResult⟩ := htold other unsupported
    have hparallel := Transcript.ofBytes_parallel (additive_sameButSender policy other)
      (Dispatcher.verdict_of_channelPolicy policy other unsupported config.markers) config peer
      exchange chunks.flatten rfl
    rw [written_eq_output] at hwritten hotherWritten
    rw [hparallel.line] at hwritten
    refine ⟨?_, ?_, _, _, _, hwritten, hotherWritten, hparallel.replies⟩
    · rw [hresult, hotherResult]
      exact hparallel.report_of_length hparallel.replies.length_eq _
    · rw [hwritten, hotherWritten]
      exact length_output _ _ hparallel.replies
  · obtain ⟨hwritten, hresult⟩ := htold policy .ignore
    obtain ⟨hotherWritten, hotherResult⟩ := htold policy .unimplemented
    have hparallel := Transcript.ofBytes_parallel additive_unrefused
      (Dispatcher.verdict_of_ignore policy config.markers) config peer exchange chunks.flatten rfl
    rw [written_eq_output] at hwritten hotherWritten
    rw [hparallel.line, hparallel.replies] at hwritten
    refine ⟨_, _, hotherWritten, hwritten, ?_⟩
    rw [hresult, hotherResult, hparallel.report, hparallel.replies]

/-- The opening of channel 7, which is confirmed under two numbers; the same with an unsupported message
behind it, whose refusal is the one packet more; and without it, the same session even where such a
message would be its end. -/
theorem run_of_policies_opening :
    let opening : List Bytes :=
      [[83, 83, 72, 45, 10], [0, 0, 0, 11, 0, 90, 0, 0, 0, 1, 115, 0, 0, 0, 7]]
    let mixed : List Bytes := opening ++ [[0, 0, 0, 2, 0, 80]]
    let session (chunks : List Bytes) (channelPolicy : ChannelPolicy)
        (unsupportedPolicy : UnsupportedPolicy) : Session Cleartext :=
      fresh (.ofChunks chunks) { Config.default with channelPolicy, unsupportedPolicy } "peer"
        Cleartext.fresh
    let ignoring := (session mixed .samePeer .ignore).run
    let zero := (session mixed .zero .ignore).run
    let refusing := (session mixed .samePeer .unimplemented).run
    let supported := session opening .samePeer .ignore
    (ignoring.result = zero.result ∧ ignoring.session.written ≠ zero.session.written) ∧
      (refusing.result.toOption = some ⟨.peerClosed, 2, 2, false, some "SSH-"⟩ ∧
        ignoring.result.toOption = some ⟨.peerClosed, 2, 1, false, some "SSH-"⟩) ∧
      (∀ packet ∈ supported.decoded, packet.isSupported) ∧
      (session opening .samePeer .disconnect).run
        = { supported.run with session := supported.run.session.withUnsupported .disconnect } := by
  intro opening mixed session ignoring zero refusing supported
  obtain ⟨hchannels, -, hmessages⟩ :=
    run_of_policies .default "peer" Cleartext.fresh mixed none
  have hdiffers : ignoring.session.written ≠ zero.session.written := by decide +kernel
  have hrefusing : refusing.result.toOption = some ⟨.peerClosed, 2, 2, false, some "SSH-"⟩ := by
    decide +kernel
  have hignoring : ignoring.result.toOption = some ⟨.peerClosed, 2, 1, false, some "SSH-"⟩ := by
    decide +kernel
  have hsupported : ∀ packet ∈ supported.decoded, packet.isSupported := by decide +kernel
  exact ⟨⟨(hchannels .samePeer .zero .ignore).1, hdiffers⟩, ⟨hrefusing, hignoring⟩, hsupported,
    hmessages _ .samePeer .ignore .disconnect hsupported⟩

end Session

end MockSsh
