import WlResprox.Words
import WlResprox.BiMap
import WlResprox.HashMap
import WlResprox.Wire
import WlResprox.Protocol
import WlResprox.Walks
import WlResprox.Encoding
import WlResprox.Formats
import WlResprox.Tables
import WlResprox.ShadowTable
import WlResprox.Recreation
import WlResprox.Trackers
import WlResprox.Session
import WlResprox.Inbound
import WlResprox.Relay
import WlResprox.Rewriting
import WlResprox.Recover
import WlResprox.Calls
import WlResprox.Outgoing
import WlResprox.Runs
import WlResprox.Connection
import WlResprox.Effects
import WlResprox.Framing
import WlResprox.Books
import WlResprox.Ledger
import WlResprox.Moves
import WlResprox.SpliceMoves
import WlResprox.RelayMoves
import WlResprox.RecoveryMoves
import WlResprox.Recipes
import WlResprox.Shifts
import WlResprox.Readiness
import WlResprox.Numbering
import WlResprox.Client
import WlResprox.Agreement
import WlResprox.Remaps
import WlResprox.Tending
import WlResprox.Courses
import WlResprox.Told
import WlResprox.Lifetimes
import WlResprox.Listings
import WlResprox.InFlight
import WlResprox.Hands
import WlResprox.Grabs
import WlResprox.Backing
import WlResprox.Promises
import WlResprox.Reasons
import WlResprox.Turns
import WlResprox.Fidelity
import WlResprox.Checks
import WlResprox.Panics
import WlResprox.Serials
import WlResprox.GlobalNames
import WlResprox.Retention
import WlResprox.Waiting
import WlResprox.Letters
import WlResprox.Attribution
import WlResprox.RecoveryFds
import WlResprox.Reserves
import WlResprox.Splices
import WlResprox.Interceptions
import WlResprox.Custody
import WlResprox.Gathering
import WlResprox.Assembly
import WlResprox.Planes
import WlResprox.Rebuilding
import WlResprox.Silence
import WlResprox.TableLaws
import WlResprox.Wedges
import WlResprox.Pumps
import WlResprox.DesktopEntries
import WlResprox.AppIds
import WlResprox.AppIdReplays
import WlResprox.Reclaiming
import WlResprox.Transfers
import WlResprox.Translations
import WlResprox.Restorations
import WlResprox.Texts
import WlResprox.Programs
import WlResprox.Transport
import WlResprox.SocketSwap
import WlResprox.Effort
import WlResprox.Repeats
import WlResprox.Revisions
import WlResprox.Lines
import WlResprox.Recorder
import WlResprox.Listener
