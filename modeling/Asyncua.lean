import Asyncua.Python
import Asyncua.Structures.Types
import Asyncua.Structures.GetCode
import Asyncua.Structures.MakeModel
import Asyncua.Structures.Registration
import Asyncua.Crypto.PHash
import Asyncua.Crypto.X509
import Asyncua.Structures.Generate
import Asyncua.Structures.LoadTypeDefinitions
import Asyncua.Structures.LoadEnums
import Asyncua.Tools.GenerateStructs
import Asyncua.Tools.Ls
import Asyncua.Tools.Variant
import Asyncua.Tools.Args
import Asyncua.Tools.Discover
import Asyncua.Examples.ServerExample
