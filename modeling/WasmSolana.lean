import WasmSolana.Basic
import WasmSolana.Ports
import WasmSolana.FindPorts
import WasmSolana.Genesis
import WasmSolana.Runner
import WasmSolana.System
import WasmSolana.Message
import WasmSolana.ParseAccounts
import WasmSolana.TransactionStatus
import WasmSolana.Decode
import WasmSolana.Alphabet
import WasmSolana.Base64
import WasmSolana.Base58
import WasmSolana.UiEncoding
