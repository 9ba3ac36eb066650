import EvseIso15118.Loop
import EvseIso15118.V2gtpParser
import EvseIso15118.SeccStateMachine
import EvseIso15118.ResponseHandler
import EvseIso15118.V2gtpHandler
import EvseIso15118.FrameBounds
import EvseIso15118.SessionRun
import EvseIso15118.FrameStream
import EvseIso15118.Chunking
import EvseIso15118.Discarding
import EvseIso15118.BufferEchoes
import EvseIso15118.ChargingSequence
import EvseIso15118.SdpHandler
import EvseIso15118.TlsTransport
import EvseIso15118.SeccSession
import EvseIso15118.TransportAgreement
import EvseIso15118.CallRounds
import EvseIso15118.ResponseWrites
import EvseIso15118.RouterAgreement
import EvseIso15118.SessionStop
import EvseIso15118.SessionLifecycle
import EvseIso15118.TcpReading
import EvseIso15118.ContextWrites
import EvseIso15118.SlacFrames
import EvseIso15118.SlacIsolation
import EvseIso15118.SlacPhases
import EvseIso15118.SlacDialogue
import EvseIso15118.SlacContexts
import EvseIso15118.SlacDriving
import EvseIso15118.ProtocolNegotiation
import EvseIso15118.ResponseFraming
import EvseIso15118.HeaderChecks
import EvseIso15118.SdpGrammar
import EvseIso15118.TcpStream
import EvseIso15118.SlacTermination
import EvseIso15118.SlacAttenuation
import EvseIso15118.SlacTimeouts
import EvseIso15118.SlacSending
import EvseIso15118.SlacRefusals
import EvseIso15118.SlacRepetition
import EvseIso15118.ResponseVerification
import EvseIso15118.HeaderCodecs
import EvseIso15118.RingBuffer
import EvseIso15118.Json
import EvseIso15118.JsonReads
import EvseIso15118.JsonBounds
import EvseIso15118.SeccLog
import EvseIso15118.SeccLogFile
import EvseIso15118.SlacAgreement
import EvseIso15118.SlacCompletion
import EvseIso15118.Lockstep
import EvseIso15118.SessionMemory
import EvseIso15118.SocketOwnership
import EvseIso15118.SlacSessionStates
import EvseIso15118.SeccLogThreads
import EvseIso15118.ChargingDialogue
import EvseIso15118.SessionFile
import EvseIso15118.PlainTransport
