import SnowBrawl.Lib.OrderedMap
import SnowBrawl.Lib.JsString
import SnowBrawl.Lib.JsValue
import SnowBrawl.Lib.Euler
import SnowBrawl.Protocol
import SnowBrawl.Utils
import SnowBrawl.State
import SnowBrawl.Game
import SnowBrawl.Bot
import SnowBrawl.Ws
import SnowBrawl.Rejections
import SnowBrawl.Runs
import SnowBrawl.Names
import SnowBrawl.Sessions
import SnowBrawl.Client.Network
import SnowBrawl.Client.Snowball
import SnowBrawl.Lib.Base64
import SnowBrawl.Lib.Json
import SnowBrawl.Lib.Coerce
import SnowBrawl.Auth
import SnowBrawl.Client.Utils
import SnowBrawl.Login
import SnowBrawl.Cache
import SnowBrawl.BotEntries
import SnowBrawl.Limits
import SnowBrawl.Storage
import SnowBrawl.Client.World
import SnowBrawl.HitSearch
import SnowBrawl.Frames
import SnowBrawl.Isolation
import SnowBrawl.Shots
import SnowBrawl.Lives
import SnowBrawl.Segments
import SnowBrawl.Session
import SnowBrawl.Recovery
import SnowBrawl.Broadcasts
import SnowBrawl.Online
import SnowBrawl.EventLog
