import FindMyDevice.GoUnicode
import FindMyDevice.GoStrings
import FindMyDevice.Tables
import FindMyDevice.PgStore
import FindMyDevice.NonceStore
import FindMyDevice.CommandQueue
import FindMyDevice.PositionTracker
import FindMyDevice.DeviceRegistry
import FindMyDevice.Hawk
import FindMyDevice.HawkHeader
import FindMyDevice.Interleaving
import FindMyDevice.NonceRace
import FindMyDevice.CommandRace
import FindMyDevice.StoreFailures
import FindMyDevice.PositionRace
import FindMyDevice.DeviceDelete
import FindMyDevice.Canonical
import FindMyDevice.HeaderGrammar
import FindMyDevice.DeviceIsolation
import FindMyDevice.ThreadIsolation
import FindMyDevice.HawkProtocol
import FindMyDevice.CommandOrigin
import FindMyDevice.RegistryIntegrity
import FindMyDevice.RegistryRace
