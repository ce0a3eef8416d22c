import NeoPG.Util.CString
import NeoPG.Util.Errors
import NeoPG.Keyserver.Desc
import NeoPG.Keyserver.Chunk
import NeoPG.Keyserver.Get
import NeoPG.Keyserver.Budget
import NeoPG.Keyserver.Screener
import NeoPG.Plaintext.HandlePlaintext
import NeoPG.Plaintext.MaxOutput
import NeoPG.Plaintext.Clearsig
import NeoPG.Plaintext.DoHash
import NeoPG.Search.Keyrec
import NeoPG.Search.Prompt
import NeoPG.Search.Handler
import NeoPG.Search.Invariant
import NeoPG.Search.Safety
import NeoPG.Search.Order
import NeoPG.Keyserver.Import
import NeoPG.Keyserver.Fetch
import NeoPG.Search.Selection
import NeoPG.Search.UidDecode
import NeoPG.Search.PubFields
import NeoPG.Search.RefBlocks
import NeoPG.Search.Paging
import NeoPG.Plaintext.Output
import NeoPG.Keyserver.Arrays
import NeoPG.Plaintext.DataFiles
import NeoPG.Plaintext.OutputFile
import NeoPG.Keyserver.Options
import NeoPG.Keyserver.Put
