import SorobanPlayground.Host.Arithmetic
import SorobanPlayground.Host.Token
import SorobanPlayground.Library.CallMachine
import SorobanPlayground.Library.FiniteMap
