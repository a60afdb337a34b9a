import ZephyrIo.Struct
import ZephyrIo.StreamSocket
import ZephyrIo.IoTSenseFraming
import ZephyrIo.TcpReceiveLoop
import ZephyrIo.SensorClients
import ZephyrIo.UdpFixture
import ZephyrIo.IoTSenseTool
import ZephyrIo.TcpClientDemo
import ZephyrIo.PyStr
import ZephyrIo.FixtureConfig
import ZephyrIo.TcpConnection
