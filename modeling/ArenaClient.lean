import ArenaClient.Base.Transition
import ArenaClient.Base.Bytes
import ArenaClient.Base.Framing
import ArenaClient.Base.Protobuf
import ArenaClient.Base.ParseFromArray
import ArenaClient.Base.UnknownFields
import ArenaClient.Base.FieldOrder
import ArenaClient.Network.RecvRun
import ArenaClient.Network.PausedDelivery
import ArenaClient.Network.RoundTrip
import ArenaClient.Network.ServerPacketHandler
import ArenaClient.Network.SendAlignment
import ArenaClient.Network.LeavePacket
import ArenaClient.Network.CursorBounds
import ArenaClient.Network.CursorRoundTrip
import ArenaClient.Session.RequestsProofs
import ArenaClient.Session.Credentials
import ArenaClient.Session.ReturnValues
import ArenaClient.Session.PostedRequests
import ArenaClient.Session.WorkerSafety
import ArenaClient.Session.Isolation
import ArenaClient.Game.RoomCache
import ArenaClient.Game.RoomResults
import ArenaClient.Game.LobbyRooms
import ArenaClient.Game.PlayerStates
import ArenaClient.Game.LifeCycle
import ArenaClient.Game.Hits
import ArenaClient.Game.MovePacing
import ArenaClient.Game.JunkPackets
import ArenaClient.Game.TwoThreads
import ArenaClient.Game.Completion
import ArenaClient.Game.WholeClient
import ArenaClient.Game.Announcements
import ArenaClient.Game.Scoreboard
